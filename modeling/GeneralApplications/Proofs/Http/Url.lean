import GeneralApplications.Http.Exchange
import Mathlib.Data.List.TakeWhile

/-!
# URLs below a base

A path is put after the text of a base, whatever this is: it may lack its host, or end in a query.
Of the URL that results, scheme and host do not depend on what follows the first segment of the path
(`Url.exists_ofText?_below`). So if a request can be formed for one path below a base, then it can
be for every other that begins with the same segment (`Outgoing.exists_ofParts_below`).
-/

namespace GeneralApplications.Http

open Text

/-! ## Texts cut at a character -/

section
variable {p : Char → Bool} {c : Char} {l r : List Char}

theorem takeWhile_append_cons (hp : p c = false) : (l ++ c :: r).takeWhile p = l.takeWhile p := by
  induction l with
  | nil => simp [hp]
  | cons d l ih =>
    by_cases hd : p d = true
    · simp [hd, ih]
    · simp [hd]

theorem dropWhile_append_cons (hp : p c = false) :
    (l ++ c :: r).dropWhile p = l.dropWhile p ++ c :: r := by
  induction l with
  | nil => simp [hp]
  | cons d l ih =>
    by_cases hd : p d = true
    · simp [hd, ih]
    · simp [hd]

/-- The first part of a cut text. -/
theorem fst_cutAt (c : Char) (cs : List Char) : (cutAt c cs).1 = cs.takeWhile (· ≠ c) := by
  have hparts := cs.takeWhile_append_dropWhile (p := (· ≠ c))
  unfold cutAt
  cases hdrop : cs.dropWhile (· ≠ c) with
  | nil =>
    rw [hdrop, List.append_nil] at hparts
    exact hparts.symm
  | cons d r => rfl

end

/-! ## Texts with a path at their end -/

/-- The text of a base with a path below it: a first segment, and what follows it. -/
def below (base segment w : List Char) : List Char :=
  base ++ '/' :: (segment ++ '/' :: w)

/-- A text that goes on without characters that would end a path, and that has no blanks. -/
structure IsPlain (w : List Char) : Prop where
  no_fragment : '#' ∉ w
  no_query : '?' ∉ w
  visible : w.all (0x20 < ·.toNat) = true

theorem IsPlain.lt_toNat {w : List Char} (hw : IsPlain w) {c : Char} (hc : c ∈ w) :
    0x20 < c.toNat :=
  of_decide_eq_true (List.all_eq_true.1 hw.visible c hc)

theorem IsPlain.append {v w : List Char} (hv : IsPlain v) (hw : IsPlain w) : IsPlain (v ++ w) where
  no_fragment h := (List.mem_append.1 h).elim hv.no_fragment hw.no_fragment
  no_query h := (List.mem_append.1 h).elim hv.no_query hw.no_query
  visible := by rw [List.all_append, hv.visible, hw.visible, Bool.and_self]

/-- A slash or a backslash, which divides a URL of the web as a slash does. -/
def isSlash (c : Char) : Bool :=
  c = '/' || c = '\\'

/-- A segment of a path: plain, not empty and without slashes. -/
structure IsSegment (segment : List Char) : Prop extends IsPlain segment where
  ne_nil : segment ≠ []
  no_slash : segment.any isSlash = false

section
variable {base segment : List Char}

/-- A cut in the base takes away all that is below it; another one leaves it as it is. -/
theorem takeWhile_ne_below {c : Char} {w : List Char} (hslash : c ≠ '/') (hsegment : c ∉ segment)
    (hw : c ∉ w) : (below base segment w).takeWhile (· ≠ c) =
      if c ∈ base then base.takeWhile (· ≠ c) else below base segment w := by
  split
  next hc =>
    obtain ⟨l, r, rfl⟩ := List.append_of_mem hc
    have hstop : decide (c ≠ c) = false := by simp
    rw [below, List.append_assoc, List.cons_append, takeWhile_append_cons hstop,
      takeWhile_append_cons hstop]
  next hc =>
    have hnot : c ∉ below base segment w := by simp [below, hc, hslash, hsegment, hw]
    refine List.takeWhile_eq_self_iff.2 fun d hd => decide_eq_true ?_
    rintro rfl
    exact hnot hd

end

namespace Url

/-- The characters that surround a URL. -/
def isLow (c : Char) : Bool :=
  c.toNat ≤ 0x20

/-- The characters that do not count within a URL are left out. -/
def counts (c : Char) : Bool :=
  c ≠ '\t' && c ≠ '\n' && c ≠ '\r'

theorem clean_eq (cs : List Char) :
    clean cs = ((cs.dropWhile isLow).reverse.dropWhile isLow).reverse.filter counts := rfl

theorem isLow_of_visible {c : Char} (h : 0x20 < c.toNat) : isLow c = false := by
  simpa [isLow] using h

theorem counts_of_visible {c : Char} (h : 0x20 < c.toNat) : counts c = true := by
  simp only [counts, Bool.and_eq_true, decide_eq_true_eq]
  refine ⟨⟨?_, ?_⟩, ?_⟩
  · rintro rfl
    exact absurd h (by decide)
  · rintro rfl
    exact absurd h (by decide)
  · rintro rfl
    exact absurd h (by decide)

/-- Cleaning changes the base only. -/
theorem clean_below {segment w : List Char} (hsegment : IsPlain segment) (hw : IsPlain w)
    (base : List Char) :
    clean (below base segment w) = below ((base.dropWhile isLow).filter counts) segment w := by
  have hslash : isLow '/' = false := rfl
  have hend : w.reverse.dropWhile isLow = w.reverse := by
    cases hr : w.reverse with
    | nil => rfl
    | cons c r =>
      have hc : c ∈ w := by
        rw [← List.mem_reverse, hr]
        exact List.mem_cons_self ..
      rw [List.dropWhile_cons_of_neg (by simp [isLow_of_visible (hw.lt_toNat hc)])]
  have hreverse (l : List Char) : (below l segment w).reverse =
      w.reverse ++ '/' :: (segment.reverse ++ '/' :: l.reverse) := by
    simp [below]
  have hkept : (segment ++ '/' :: w).filter counts = segment ++ '/' :: w := by
    refine List.filter_eq_self.2 fun c hc => ?_
    rcases List.mem_append.1 hc with hc | hc
    · exact counts_of_visible (hsegment.lt_toNat hc)
    · rcases List.mem_cons.1 hc with rfl | hc
      · rfl
      · exact counts_of_visible (hw.lt_toNat hc)
  have hfront : (below base segment w).dropWhile isLow =
      below (base.dropWhile isLow) segment w := dropWhile_append_cons hslash
  rw [clean_eq, hfront, hreverse, dropWhile_append_cons hslash, hend, ← hreverse,
    List.reverse_reverse, below, List.filter_append, List.filter_cons_of_pos rfl, hkept]
  rfl

/-- The characters of a scheme. -/
def inScheme (c : Char) : Bool :=
  c.isAlphanum || "+-.".toList.contains c

theorem scheme?_eq (cs : List Char) :
    scheme? cs = match cs.takeWhile inScheme, cs.dropWhile inScheme with
      | s :: ss, ':' :: r => if s.isAlpha then some ((s :: ss).map Char.toLower, r) else none
      | _, _ => none := rfl

/-- The scheme of a URL stands in the base, or there is none. -/
theorem scheme?_below (base segment : List Char) :
    (∀ w, scheme? (below base segment w) = none) ∨
    ∃ scheme base', ∀ w, scheme? (below base segment w) = some (scheme, below base' segment w) := by
  have hslash : inScheme '/' = false := rfl
  simp only [scheme?_eq, below, takeWhile_append_cons hslash, dropWhile_append_cons hslash]
  cases base.takeWhile inScheme with
  | nil => exact .inl fun _ => rfl
  | cons s ss =>
    cases base.dropWhile inScheme with
    | nil => exact .inl fun _ => rfl
    | cons c r =>
      by_cases hc : c = ':'
      · subst hc
        by_cases hs : s.isAlpha
        · exact .inr ⟨(s :: ss).map Char.toLower, r, fun w => by simp [hs]⟩
        · exact .inl fun w => by simp [hs]
      · refine .inl fun w => ?_
        simp only [List.cons_append]
        split
        next heq => simp_all
        next => rfl

/-- An authority ends at the first slash: what follows does not matter to it. -/
theorem authority?_slash (scheme e v w : List Char) :
    (authority? scheme (e ++ '/' :: v)).map (·.1) =
      (authority? scheme (e ++ '/' :: w)).map (·.1) := by
  have hfront (r : List Char) :
      (e ++ '/' :: r).takeWhile
          (fun c => !(decide (c = '/') || isSpecial scheme && decide (c = '\\'))) =
        e.takeWhile fun c => !(decide (c = '/') || isSpecial scheme && decide (c = '\\')) :=
    takeWhile_append_cons (by simp)
  -- The text after the authority stands beside it in the result only, where it is left out.
  simp only [authority?, hfront, Option.bind_eq_bind, apply_ite (Option.map _), Option.map_bind,
    Function.comp_def, Option.pure_def, Option.map_some]

theorem hierarchy?_of_isWeb {scheme : List Char} (h : isWeb scheme = true) (cs : List Char) :
    hierarchy? scheme cs = (authority? scheme (cs.dropWhile isSlash)).map fun a =>
      (some a.1, normalPath scheme a.2) := by
  simp only [hierarchy?, h, if_true, Option.map_eq_bind]
  rfl

/-- After the slashes of a base the path is still below something. -/
theorem dropWhile_isSlash_below {segment : List Char} (hsegment : IsSegment segment)
    (base : List Char) :
    ∃ e, ∀ w, ∃ v, (below base segment w).dropWhile isSlash = e ++ '/' :: v := by
  have hnil : segment.dropWhile isSlash = segment := by
    cases segment with
    | nil => rfl
    | cons c r =>
      have hc : ¬ isSlash c = true :=
        List.any_eq_false.1 hsegment.no_slash c (List.mem_cons_self ..)
      rw [List.dropWhile_cons_of_neg hc]
  by_cases hbase : (base.dropWhile isSlash).isEmpty
  · refine ⟨segment, fun w => ⟨w, ?_⟩⟩
    have hfront : (segment ++ '/' :: w).dropWhile isSlash = segment ++ '/' :: w := by
      rw [List.dropWhile_append, hnil, if_neg (by simpa using hsegment.ne_nil)]
    rw [below, List.dropWhile_append, if_pos hbase, List.dropWhile_cons_of_pos rfl, hfront]
  · refine ⟨base.dropWhile isSlash, fun w => ⟨segment ++ '/' :: w, ?_⟩⟩
    rw [below, List.dropWhile_append, if_neg hbase]

/-- On the web, the authority of a URL stands in the base and the first segment below it. -/
theorem hierarchy?_below {scheme segment : List Char} (hweb : isWeb scheme = true)
    (hsegment : IsSegment segment) (base v w : List Char) :
    (hierarchy? scheme (below base segment v)).map (·.1) =
      (hierarchy? scheme (below base segment w)).map (·.1) := by
  obtain ⟨e, he⟩ := dropWhile_isSlash_below hsegment base
  obtain ⟨v', hv⟩ := he v
  obtain ⟨w', hw⟩ := he w
  have hsame := congrArg (Option.map some) (authority?_slash scheme e v' w')
  rw [Option.map_map, Option.map_map] at hsame
  rw [hierarchy?_of_isWeb hweb, hierarchy?_of_isWeb hweb, hv, hw, Option.map_map, Option.map_map]
  exact hsame

/-- Query and fragment begin in the base, so that nothing below it counts, or there are none. -/
theorem takeWhile_takeWhile_below {segment : List Char} (hsegment : IsSegment segment)
    (base : List Char) :
    (∃ k, ∀ w, IsPlain w →
      ((below base segment w).takeWhile (· ≠ '#')).takeWhile (· ≠ '?') = k) ∨
    ∀ w, IsPlain w →
      ((below base segment w).takeWhile (· ≠ '#')).takeWhile (· ≠ '?') = below base segment w := by
  by_cases hfragment : '#' ∈ base
  · refine .inl ⟨(base.takeWhile (· ≠ '#')).takeWhile (· ≠ '?'), fun w hw => ?_⟩
    rw [takeWhile_ne_below (by decide) hsegment.no_fragment hw.no_fragment, if_pos hfragment]
  · by_cases hquery : '?' ∈ base
    · refine .inl ⟨base.takeWhile (· ≠ '?'), fun w hw => ?_⟩
      rw [takeWhile_ne_below (by decide) hsegment.no_fragment hw.no_fragment, if_neg hfragment,
        takeWhile_ne_below (by decide) hsegment.no_query hw.no_query, if_pos hquery]
    · refine .inr fun w hw => ?_
      rw [takeWhile_ne_below (by decide) hsegment.no_fragment hw.no_fragment, if_neg hfragment,
        takeWhile_ne_below (by decide) hsegment.no_query hw.no_query, if_neg hquery]

/-- The scheme and the host that a text denotes. -/
def place? (s : String) : Option (List Char × Option (List Char)) :=
  (ofText? s).map fun u => (u.scheme, u.host)

theorem place?_eq (s : String) :
    place? s = (scheme? (clean s.toList)).bind fun p =>
      (hierarchy? p.1 ((p.2.takeWhile (· ≠ '#')).takeWhile (· ≠ '?'))).map fun h =>
        (p.1, h.1.map (·.host)) := by
  simp only [place?, ofText?, Option.bind_eq_bind, Option.map_bind, Function.comp_def,
    Option.pure_def, Option.map_some, fst_cutAt]
  refine congrArg _ (funext fun p => ?_)
  rw [Option.map_eq_bind]
  rfl

/-- Scheme and host of a URL of the web stand in the base and the first segment below it. -/
theorem place?_below {segment v w : List Char} (hsegment : IsSegment segment) (hv : IsPlain v)
    (hw : IsPlain w) {base : List Char} {scheme : List Char} {host : Option (List Char)}
    (hweb : isWeb scheme = true)
    (h : place? (String.ofList (below base segment v)) = some (scheme, host)) :
    place? (String.ofList (below base segment w)) = some (scheme, host) := by
  rw [place?_eq, String.toList_ofList] at h ⊢
  rw [clean_below hsegment.toIsPlain hv] at h
  rw [clean_below hsegment.toIsPlain hw]
  rcases scheme?_below ((base.dropWhile isLow).filter counts) segment with
    hnone | ⟨scheme', base', hsome⟩
  · rw [hnone] at h
    cases h
  · rw [hsome, Option.bind_some] at h ⊢
    obtain ⟨p, hp, hpair⟩ := Option.map_eq_some_iff.1 h
    obtain rfl : scheme' = scheme := congrArg Prod.fst hpair
    rcases takeWhile_takeWhile_below hsegment base' with ⟨k, hcut⟩ | hcut
    · rw [hcut v hv] at h
      rw [hcut w hw]
      exact h
    · rw [hcut v hv] at hp
      rw [hcut w hw]
      have hsame := hierarchy?_below hweb hsegment base' v w
      rw [hp, Option.map_some] at hsame
      obtain ⟨q, hq, hqp⟩ := Option.map_eq_some_iff.1 hsame.symm
      rw [hq, Option.map_some, hqp]
      exact congrArg some hpair

end Url

/-! ## Requests -/

theorem Url.isRequestable_iff {u : Url} :
    u.isRequestable = true ↔ (u.scheme = "http".toList ∨ u.scheme = "https".toList) ∧
      (u.host.getD []).any "\"\x60\x7b\x7d".toList.contains = false := by
  simp [isRequestable]

/-- The request to a URL. -/
theorem Outgoing.ofParts_of_ofText? {method url : String} {headers : List (String × String)}
    {payload : Option Payload} {u : Url} (hu : Url.ofText? url = some u) :
    Outgoing.ofParts method url headers payload =
      if u.hasHost then
        if headers.all (isHeaderValue ·.2) then
          if u.withoutCredentials.isRequestable then
            .ok ⟨method, u.withoutCredentials, headers, payload⟩
          else .error (.malformed (some u.withoutCredentials))
        else .error (.malformed none)
      else .error (.malformed (some u)) := by
  simp only [ofParts, hu]
  cases u.hasHost <;> cases headers.all (isHeaderValue ·.2) <;>
    cases u.withoutCredentials.isRequestable <;> rfl

/-- When a request can be formed. -/
theorem Outgoing.exists_ofParts_iff {method url : String} {headers : List (String × String)}
    {payload : Option Payload} :
    (∃ r, Outgoing.ofParts method url headers payload = .ok r) ↔
      ∃ u, Url.ofText? url = some u ∧ u.hasHost = true ∧
        headers.all (isHeaderValue ·.2) = true ∧ u.withoutCredentials.isRequestable = true := by
  constructor
  · rintro ⟨r, hr⟩
    cases hu : Url.ofText? url with
    | none =>
      simp only [ofParts, hu] at hr
      cases hr
    | some u =>
      rw [ofParts_of_ofText? hu] at hr
      refine ⟨u, rfl, ?_⟩
      split at hr
      next hhost =>
        split at hr
        next hvalues =>
          split at hr
          next hrequest => exact ⟨hhost, hvalues, hrequest⟩
          next => cases hr
        next => cases hr
      next => cases hr
  · rintro ⟨u, hu, hhost, hvalues, hrequest⟩
    rw [ofParts_of_ofText? hu, if_pos hhost, if_pos hvalues, if_pos hrequest]
    exact ⟨_, rfl⟩

/-- If a request can be formed for a path below a base, then every other can be for a path that
begins with the same segment, whatever its method and its payload; further headers must have values
that can be sent. -/
theorem Outgoing.exists_ofParts_below {segment v w base : List Char} (hsegment : IsSegment segment)
    (hv : IsPlain v) (hw : IsPlain w) {method method' : String}
    {headers more : List (String × String)} {payload payload' : Option Payload} {r : Outgoing}
    (hr : Outgoing.ofParts method (String.ofList (below base segment v)) headers payload = .ok r)
    (hmore : more.all (isHeaderValue ·.2) = true) :
    ∃ r', Outgoing.ofParts method' (String.ofList (below base segment w)) (headers ++ more)
      payload' = .ok r' := by
  obtain ⟨u, hu, hhost, hvalues, hrequest⟩ := exists_ofParts_iff.1 ⟨r, hr⟩
  have hplace : Url.place? (String.ofList (below base segment v)) = some (u.scheme, u.host) := by
    rw [Url.place?, hu, Option.map_some]
  obtain ⟨hscheme, hchars⟩ := Url.isRequestable_iff.1 hrequest
  have hweb : Url.isWeb u.scheme = true := by
    have hhttp : u.scheme = "http".toList ∨ u.scheme = "https".toList := hscheme
    rcases hhttp with hhttp | hhttp
    · rw [hhttp]
      decide
    · rw [hhttp]
      decide
  obtain ⟨u', hu', hsame⟩ := Option.map_eq_some_iff.1
    (Url.place?_below hsegment hv hw hweb hplace)
  obtain ⟨hscheme', hhost'⟩ := Prod.mk.inj hsame
  refine exists_ofParts_iff.2 ⟨u', hu', ?_, ?_, Url.isRequestable_iff.2 ⟨?_, ?_⟩⟩
  · rwa [Url.hasHost, hhost']
  · rw [List.all_append, hvalues, hmore]
    rfl
  · show u'.scheme = "http".toList ∨ u'.scheme = "https".toList
    rw [hscheme']
    exact hscheme
  · show (u'.host.getD []).any _ = false
    rw [hhost']
    exact hchars

end GeneralApplications.Http
