import GeneralApplications.Mail.Notification
import GeneralApplications.Proofs.Http.Host
import GeneralApplications.Proofs.Platform.Client

/-!
# Notification runs

Which emails a notification sends and what it comes to, for every record, every environment and
every list of replies (`notifyRespondents_delivers`). Before the first request there is a fixed
order of conditions; from then on there is one request for each address, and the first reply that
is not a success ends the run (`Delivery`).

A configured provider can always be written to: nothing that the variable for its domain may hold
changes the scheme or the host of the URL, and the characters of encoded credentials may all stand
in a header (`exists_addressed`). How long a URL may be is left aside.
-/

namespace GeneralApplications

/-! ## Credentials -/

/-- The character may stand in a header. -/
def Http.isHeaderChar (c : Char) : Bool :=
  c = '\t' || (32 ≤ c.toNat && c.toNat ≠ 127)

theorem Http.isHeaderValue_eq (s : String) : isHeaderValue s = s.toList.all isHeaderChar := rfl

namespace Text

open Http (isHeaderChar)

theorem isHeaderChar_base64Char (n : Nat) : isHeaderChar (base64Char n) = true := by
  by_cases hn : n < 64
  · have hall : ∀ n < 64, isHeaderChar (base64Char n) = true := by decide
    exact hall n hn
  · have hslash : base64Char n = '/' := by
      unfold base64Char
      rw [if_neg (by omega), if_neg (by omega), if_neg (by omega), if_neg (by omega)]
    rw [hslash]
    decide

theorem all_isHeaderChar_base64 (bytes : List UInt8) : (base64 bytes).all isHeaderChar = true := by
  have hpad : isHeaderChar '=' = true := by decide
  fun_induction base64 bytes with
  | case1 => rfl
  | case2 a n => simp [isHeaderChar_base64Char, hpad]
  | case3 a b n => simp [isHeaderChar_base64Char, hpad]
  | case4 a b c rest n ih => simp [isHeaderChar_base64Char, ih]

end Text

namespace Mail

open Http (Outgoing Exchange Reply Script Url Payload)

theorem isHeaderValue_basicCredentials (user password : String) :
    Http.isHeaderValue (basicCredentials user password) = true := by
  have hbasic : "Basic ".toList.all Http.isHeaderChar = true := by decide
  rw [Http.isHeaderValue_eq, basicCredentials, String.toList_append, List.all_append, hbasic,
    String.toList_ofList, Text.all_isHeaderChar_base64, Bool.and_self]

/-! ## Requests -/

/-- A request that names a recipient in its form. Of all that it says only this is about the
recipient. -/
def addressed (base : Outgoing) (before after : List (String × String)) (recipient : String) :
    Outgoing :=
  { base with payload := some (.form (before ++ ("to", recipient) :: after)) }

/-- Whatever the provider's domain is, a request goes to the provider's host. -/
theorem place?_messages (domain : String) :
    Url.place? ("https://api.mailgun.net/v3/" ++ domain ++ "/messages") =
      some ("https".toList, some "api.mailgun.net".toList) := by
  have htext : "https://api.mailgun.net/v3/" ++ domain ++ "/messages" =
      String.ofList ("https://".toList ++ "api.mailgun.net".toList ++ ['/'] ++
        ("v3/".toList ++ domain.toList ++ "/messages".toList)) := by
    refine String.toList_injective ?_
    simp
  have hhost : Http.IsSegment "api.mailgun.net".toList :=
    ⟨⟨by decide, by decide, by decide⟩, by decide, by decide⟩
  have hend : Http.IsPlain "/messages".toList := ⟨by decide, by decide, by decide⟩
  have hauthority : (Url.authority? "https".toList ("api.mailgun.net".toList ++ ['/'])).map (·.1) =
      some ⟨none, "api.mailgun.net".toList, none⟩ := by decide +kernel
  rw [htext]
  exact Url.place?_of_host hhost hend (by decide) hauthority _

section
variable {env : Environment} {domain key : String}

theorem request_configured (hdomain : env.get? "MAILGUN_DOMAIN" = some domain)
    (hkey : env.get? "MAILGUN_API_KEY" = some key) (e : Email) :
    request env e =
      (Outgoing.ofParts "POST" ("https://api.mailgun.net/v3/" ++ domain ++ "/messages")
        [("authorization", basicCredentials "api" key),
          ("content-type", "application/x-www-form-urlencoded")]
        (some (.form [("from", sender env domain), ("to", e.recipient), ("subject", e.subject),
          ("html", e.html)]))).mapError .transport := by
  have hdomain' : Mail.domain env = .ok domain := by
    simp only [Mail.domain, Environment.require, hdomain]
  have hkey' : apiKey env = .ok key := by simp only [apiKey, Environment.require, hkey]
  simp only [request, hdomain', hkey', Except.mapError, bind, Except.bind]

/-- With a configured provider a request about a decision can be formed for every recipient. This
is said of domains of any length, since here no URL is too long for a request
(`Url.isRequestable`). -/
theorem exists_addressed (hdomain : env.get? "MAILGUN_DOMAIN" = some domain)
    (hkey : env.get? "MAILGUN_API_KEY" = some key) (c : CaseRecord) :
    ∃ base before after, ∀ recipient, request env (decisionEmail env c recipient) =
      .ok (addressed base before after recipient) := by
  let headers : List (String × String) := [("authorization", basicCredentials "api" key),
    ("content-type", "application/x-www-form-urlencoded")]
  have hvalues : headers.all (Http.isHeaderValue ·.2) = true := by
    have hform : Http.isHeaderValue "application/x-www-form-urlencoded" = true := by decide
    simp [headers, isHeaderValue_basicCredentials, hform]
  obtain ⟨u, hu⟩ := Outgoing.exists_ofParts_eq (place?_messages domain) (by decide) (by decide)
    hvalues
  refine ⟨⟨"POST", u, headers, none⟩, [("from", sender env domain)],
    [("subject", (decisionEmail env c "").subject), ("html", (decisionEmail env c "").html)],
    fun recipient => ?_⟩
  rw [request_configured hdomain hkey, hu]
  simp only [decisionEmail, addressed, Except.mapError, List.cons_append, List.nil_append, headers]

end

/-- Without the domain or the key no request is formed. -/
theorem request_unconfigured {env : Environment}
    (h : env.get? "MAILGUN_DOMAIN" = none ∨ env.get? "MAILGUN_API_KEY" = none) :
    ∃ u : Unconfigured, env.get? u.name = none ∧ ∀ e, request env e = .error (.unconfigured u) := by
  cases hdomain : env.get? "MAILGUN_DOMAIN" with
  | none =>
    refine ⟨⟨"MAILGUN_DOMAIN"⟩, hdomain, fun e => ?_⟩
    simp only [request, Mail.domain, Environment.require, hdomain]
    rfl
  | some domain =>
    have hkey : env.get? "MAILGUN_API_KEY" = none := by simpa [hdomain] using h
    refine ⟨⟨"MAILGUN_API_KEY"⟩, hkey, fun e => ?_⟩
    simp only [request, Mail.domain, apiKey, Environment.require, hdomain, hkey]
    rfl

/-! ## Replies -/

/-- The reply is an answer with success, whatever its body. -/
def Accepts (reply : Reply) : Prop :=
  ∃ status body, reply = .answered status body ∧ Http.isSuccess status = true

/-- The other replies to a request for a URL, with the error that each of them is. -/
inductive Refuses (url : Url) : Reply → SendError → Prop
  | unreachable : Refuses url .unreachable (.transport (.unreachable url))
  | dropped : Refuses url .dropped (.transport (.dropped url))
  | refused {status : Nat} {body : Option String} (h : Http.isSuccess status = false) :
    Refuses url (.answered status body) (.refused status (body.getD ""))

/-- What a reply to the request for an email comes to. -/
def outcome (url : Url) : Reply → Except SendError Unit
  | .unreachable => .error (.transport (.unreachable url))
  | .dropped => .error (.transport (.dropped url))
  | .answered status body =>
    if Http.isSuccess status then .ok () else .error (.refused status (body.getD ""))

theorem outcome_cases (url : Url) (reply : Reply) :
    (Accepts reply ∧ outcome url reply = .ok ()) ∨
    ∃ error, Refuses url reply error ∧ outcome url reply = .error error := by
  cases reply with
  | unreachable => exact .inr ⟨_, .unreachable, rfl⟩
  | dropped => exact .inr ⟨_, .dropped, rfl⟩
  | answered status body =>
    cases hstatus : Http.isSuccess status with
    | true => exact .inl ⟨⟨status, body, rfl, hstatus⟩, by simp only [outcome, hstatus, if_true]⟩
    | false => exact .inr ⟨_, .refused hstatus, by simp [outcome, hstatus]⟩

/-! ## Runs -/

/-- What comes of sending a request to each address until a reply refuses one: a result, and the
requests that were sent. A request after the last reply of the list is answered too. -/
inductive Delivery (letter : String → Outgoing) (replies : List Reply) (addresses : List String) :
    Except SendError Unit × List Outgoing → Prop
  /-- Each request is accepted. -/
  | complete (h : ∀ i < addresses.length, Accepts (replies.getD i Script.unscripted)) :
    Delivery letter replies addresses (.ok (), addresses.map letter)
  /-- The requests up to that to `a` are accepted; that one is refused, and no other is sent. -/
  | stopped {before after : List String} {a : String} {error : SendError}
      (haddresses : addresses = before ++ a :: after)
      (hbefore : ∀ i < before.length, Accepts (replies.getD i Script.unscripted))
      (hrefuses : Refuses (letter a).url (replies.getD before.length Script.unscripted) error) :
    Delivery letter replies addresses (.error error, (before ++ [a]).map letter)

section
variable {env : Environment} {e : Email} {r : Outgoing}

theorem run_send (hr : request env e = .ok r) :
    (send env e).run = .ask r fun reply => .done (outcome r.url reply) := by
  simp only [send, hr, ExceptT.run_mk]
  refine congrArg (Dialogue.ask r) (funext fun reply => ?_)
  cases reply with
  | unreachable => rfl
  | dropped => rfl
  | answered status body =>
    exact (apply_ite Dialogue.done (Http.isSuccess status = true) (Except.ok ()) _).symm

theorem run_sendAll (env : Environment) (e : Email) (rest : List Email) :
    (sendAll env (e :: rest)).run =
      (send env e).run.bind (ExceptT.bindCont fun _ => sendAll env rest) := rfl

theorem run_sendAll_cons (hr : request env e = .ok r) (rest : List Email) :
    (sendAll env (e :: rest)).run = .ask r fun reply =>
      match outcome r.url reply with
      | .ok () => (sendAll env rest).run
      | .error error => .done (.error error) := by
  rw [run_sendAll, run_send hr]
  refine congrArg (Dialogue.ask r) (funext fun reply => ?_)
  rw [Dialogue.done_bind]
  cases outcome r.url reply <;> rfl

theorem run_sendAll_error {error : SendError} (hr : request env e = .error error)
    (rest : List Email) : (sendAll env (e :: rest)).run = .done (.error error) := by
  have hsend : (send env e).run = .done (.error error) := by
    simp only [send, hr, ExceptT.run_mk]
    rfl
  rw [run_sendAll, hsend]
  rfl

end

/-- Emails whose requests can be formed are sent until one is refused. The induction is on the
addresses, for every list of replies: the first reply is taken off with the first address. -/
theorem delivery_sendAll {env : Environment} {email : String → Email} {letter : String → Outgoing}
    (hletter : ∀ a, request env (email a) = .ok (letter a)) (addresses : List String)
    (replies : List Reply) :
    Delivery letter replies addresses
      (Script.run replies (sendAll env (addresses.map email)).run) := by
  induction addresses generalizing replies with
  | nil => exact .complete (by simp)
  | cons a addresses ih =>
    have hhead : replies.headD Script.unscripted = replies.getD 0 Script.unscripted := by
      cases replies <;> rfl
    have htail (i : Nat) :
        replies.tail.getD i Script.unscripted = replies.getD (i + 1) Script.unscripted := by
      cases replies <;> simp
    rw [List.map_cons, run_sendAll_cons (hletter a), Script.run_ask, hhead]
    rcases outcome_cases (letter a).url (replies.getD 0 Script.unscripted) with
      ⟨haccepts, hok⟩ | ⟨error, hrefuses, herror⟩
    · rw [hok]
      have hrest := ih replies.tail
      generalize Script.run replies.tail (sendAll env (addresses.map email)).run = rest at hrest ⊢
      cases hrest with
      | complete h =>
        show Delivery letter replies (a :: addresses) (.ok (), (a :: addresses).map letter)
        refine .complete fun i hi => ?_
        cases i with
        | zero => exact haccepts
        | succ i =>
          rw [← htail]
          exact h i (Nat.lt_of_succ_lt_succ hi)
      | @stopped before after b error haddresses hbefore hrefuses =>
        show Delivery letter replies (a :: addresses)
          (.error error, ((a :: before) ++ [b]).map letter)
        refine .stopped (congrArg (a :: ·) haddresses) (fun i hi => ?_) ?_
        · cases i with
          | zero => exact haccepts
          | succ i =>
            rw [← htail]
            exact hbefore i (Nat.lt_of_succ_lt_succ hi)
        · rw [List.length_cons, ← htail]
          exact hrefuses
    · rw [herror]
      show Delivery letter replies (a :: addresses) (.error error, ([] ++ [a]).map letter)
      exact .stopped rfl (by simp) hrefuses

/-- A notification, for every record, environment and list of replies. Nothing is sent, with
success, while the flag is off, for an application that the respondents may not hear of, or without
addresses. Otherwise nothing is sent, with an error, to a provider that is not configured. Otherwise
the addresses are written to one after another, with requests that are the same but for the
recipient, until one is refused. Respondents may hear of an application with notice and of one that
is uncloaked (`CaseRecord.respondentsMayBeNotified_iff`); the addresses are those of their
solicitors, in order, without blank ones (`CaseRecord.respondentEmails_eq`). -/
theorem notifyRespondents_delivers (flags : FeatureFlags) (env : Environment) (c : CaseRecord)
    (replies : List Reply) :
    let run := Script.run replies (notifyRespondents flags env c).run
    let silent := flags.mailgun = false ∨ c.respondentsMayBeNotified = false ∨
      c.respondentEmails = []
    let unconfigured := env.get? "MAILGUN_DOMAIN" = none ∨ env.get? "MAILGUN_API_KEY" = none
    (silent → run = (.ok (), [])) ∧
    (¬ silent → unconfigured →
      ∃ u : Unconfigured, env.get? u.name = none ∧ run = (.error (.unconfigured u), [])) ∧
    (¬ silent → ¬ unconfigured → ∃ base before after,
      (∀ a, request env (decisionEmail env c a) = .ok (addressed base before after a)) ∧
        Delivery (addressed base before after) replies c.respondentEmails run) := by
  intro run silent unconfigured
  have hloudly (h : ¬ silent) : c.respondentEmails ≠ [] ∧ notifyRespondents flags env c =
      sendAll env (c.respondentEmails.map (decisionEmail env c)) := by
    simp only [silent, not_or, Bool.not_eq_false] at h
    obtain ⟨hflag, hmay, haddresses⟩ := h
    exact ⟨haddresses, by simp only [notifyRespondents, hflag, hmay, Bool.and_self, if_true]⟩
  refine ⟨fun hsilent => ?_, fun hloud hunset => ?_, fun hloud hset => ?_⟩
  · have hnothing : notifyRespondents flags env c = pure () := by
      rcases hsilent with hflag | hmay | haddresses
      · simp [notifyRespondents, hflag]
      · simp [notifyRespondents, hmay]
      · simp [notifyRespondents, haddresses, sendAll]
    simp only [run, hnothing]
    rfl
  · obtain ⟨haddresses, hsend⟩ := hloudly hloud
    obtain ⟨u, hu, hrequest⟩ := request_unconfigured hunset
    obtain ⟨a, rest, hcons⟩ := List.exists_cons_of_ne_nil haddresses
    refine ⟨u, hu, ?_⟩
    simp only [run, hsend, hcons, List.map_cons]
    rw [run_sendAll_error (hrequest _)]
    rfl
  · obtain ⟨-, hsend⟩ := hloudly hloud
    obtain ⟨hdomain, hkey⟩ := not_or.1 hset
    obtain ⟨domain, hdomain⟩ := Option.ne_none_iff_exists'.1 hdomain
    obtain ⟨key, hkey⟩ := Option.ne_none_iff_exists'.1 hkey
    obtain ⟨base, before, after, hrequest⟩ := exists_addressed hdomain hkey c
    refine ⟨base, before, after, hrequest, ?_⟩
    simp only [run, hsend]
    exact delivery_sendAll hrequest _ _

/-- Of three addresses, two of them the same, the first one is written to with success and the
second one without an answer. -/
example :
    let c : CaseRecord := { CaseRecord.empty with
      uncloaked := some .yes
      solicitors := ["a@example.org", " ", "b@example.org", "a@example.org"].map fun email =>
        ⟨none, ⟨none, some email, none⟩⟩ }
    let env : Environment := ⟨[("MAILGUN_DOMAIN", "example.org"), ("MAILGUN_API_KEY", "key")]⟩
    let run := Script.run [.answered 202 none, .dropped] (notifyRespondents ⟨true, false⟩ env c).run
    run.1.toOption = none ∧ run.2.length = 2 := by decide +kernel

end Mail

end GeneralApplications
