import GeneralApplications.Proofs.Http.Url

/-!
# URLs with a given host

A text that begins with a scheme and a host keeps both as a URL, whatever follows: a path with any
characters, in which a query or a fragment may begin, up to an end that is visible
(`Url.place?_of_host`). So a request to it can always be formed (`Outgoing.exists_ofParts_eq`).
-/

namespace GeneralApplications.Http

theorem IsPlain.reverse {a : List Char} (ha : IsPlain a) : IsPlain a.reverse where
  no_fragment := by simpa using ha.no_fragment
  no_query := by simpa using ha.no_query
  visible := by simpa using ha.visible

namespace Url

/-! ## Cleaning -/

theorem dropWhile_isLow_append {a : List Char} (ha : IsPlain a) (hne : a ≠ []) (r : List Char) :
    (a ++ r).dropWhile isLow = a ++ r := by
  obtain ⟨c, a, rfl⟩ := List.exists_cons_of_ne_nil hne
  have hc : isLow c = false := isLow_of_visible (ha.lt_toNat (List.mem_cons_self ..))
  rw [List.cons_append, List.dropWhile_cons_of_neg (by simp [hc])]

theorem filter_counts_of_isPlain {a : List Char} (ha : IsPlain a) : a.filter counts = a :=
  List.filter_eq_self.2 fun _ hc => counts_of_visible (ha.lt_toNat hc)

/-- Between plain texts cleaning takes away only what counts nowhere. -/
theorem clean_between {a b : List Char} (ha : IsPlain a) (hb : IsPlain b) (ha' : a ≠ [])
    (hb' : b ≠ []) (w : List Char) : clean (a ++ (w ++ b)) = a ++ (w.filter counts ++ b) := by
  have hreverse : (a ++ (w ++ b)).reverse = b.reverse ++ (w.reverse ++ a.reverse) := by simp
  have hend : b.reverse ≠ [] := by simpa using hb'
  rw [clean_eq, dropWhile_isLow_append ha ha', hreverse, dropWhile_isLow_append hb.reverse hend,
    ← hreverse, List.reverse_reverse, List.filter_append, List.filter_append,
    filter_counts_of_isPlain ha, filter_counts_of_isPlain hb]

/-! ## Scheme and host -/

/-- A cut at a character that is not in the front of a text leaves the front. -/
theorem takeWhile_ne_append {c : Char} {a : List Char} (hc : c ∉ a) (r : List Char) :
    (a ++ r).takeWhile (· ≠ c) = a ++ r.takeWhile (· ≠ c) := by
  refine List.takeWhile_append_of_pos fun d hd => decide_eq_true ?_
  rintro rfl
  exact hc hd

theorem scheme?_https (r : List Char) :
    scheme? ("https".toList ++ ':' :: r) = some ("https".toList, r) := by
  have hcolon : inScheme ':' = false := rfl
  have hfront : "https".toList.takeWhile inScheme = 'h' :: "ttps".toList := by decide
  have hback : "https".toList.dropWhile inScheme = [] := by decide
  rw [scheme?_eq, takeWhile_append_cons hcolon, dropWhile_append_cons hcolon, hfront, hback]
  rfl

/-- The slashes in front of a host do not belong to it. -/
theorem dropWhile_isSlash_host {e : List Char} (he : IsSegment e) (y : List Char) :
    ("//".toList ++ e ++ ['/'] ++ y).dropWhile isSlash = e ++ '/' :: y := by
  obtain ⟨c, r, rfl⟩ := List.exists_cons_of_ne_nil he.ne_nil
  have hc : ¬ isSlash c = true := List.any_eq_false.1 he.no_slash c (List.mem_cons_self ..)
  have htext : "//".toList ++ c :: r ++ ['/'] ++ y = '/' :: '/' :: (c :: (r ++ '/' :: y)) := by
    simp
  rw [htext, List.dropWhile_cons_of_pos rfl, List.dropWhile_cons_of_pos rfl,
    List.dropWhile_cons_of_neg hc]
  rfl

/-- Scheme and host do not depend on what follows them: a query or a fragment may begin in it, and
blanks in it do not count. -/
theorem place?_of_host {e b : List Char} (he : IsSegment e) (hb : IsPlain b) (hb' : b ≠ [])
    {a : Authority} (ha : (authority? "https".toList (e ++ ['/'])).map (·.1) = some a)
    (w : List Char) :
    place? (String.ofList ("https://".toList ++ e ++ ['/'] ++ (w ++ b))) =
      some ("https".toList, some a.host) := by
  have hslash : IsPlain ['/'] := ⟨by decide, by decide, by decide⟩
  have hbase : IsPlain ("https://".toList ++ e ++ ['/']) :=
    (IsPlain.append ⟨by decide, by decide, by decide⟩ he.toIsPlain).append hslash
  have hrest : IsPlain ("//".toList ++ e ++ ['/']) :=
    (IsPlain.append ⟨by decide, by decide, by decide⟩ he.toIsPlain).append hslash
  have hscheme : "https://".toList ++ e ++ ['/'] ++ (w.filter counts ++ b) =
      "https".toList ++ ':' :: ("//".toList ++ e ++ ['/'] ++ (w.filter counts ++ b)) := by
    simp
  obtain ⟨y, hy⟩ : ∃ y, (("//".toList ++ e ++ ['/'] ++ (w.filter counts ++ b)).takeWhile
      (· ≠ '#')).takeWhile (· ≠ '?') = "//".toList ++ e ++ ['/'] ++ y := by
    rw [takeWhile_ne_append hrest.no_fragment, takeWhile_ne_append hrest.no_query]
    exact ⟨_, rfl⟩
  rw [authority?_slash "https".toList e [] y] at ha
  obtain ⟨p, hp, rfl⟩ := Option.map_eq_some_iff.1 ha
  have hweb : isWeb "https".toList = true := by decide
  rw [place?_eq, String.toList_ofList, clean_between hbase hb (by simp) hb', hscheme, scheme?_https,
    Option.bind_some, hy, hierarchy?_of_isWeb hweb, dropWhile_isSlash_host he, hp]
  rfl

end Url

/-! ## Requests -/

/-- To a host that may stand in a request every method and every payload can be sent. -/
theorem Outgoing.exists_ofParts_eq {url : String} {host : List Char}
    (hplace : Url.place? url = some ("https".toList, some host)) (hhost : host ≠ [])
    (hchars : host.any "\"\x60\x7b\x7d".toList.contains = false)
    {headers : List (String × String)} (hvalues : headers.all (isHeaderValue ·.2) = true) :
    ∃ u, ∀ method payload,
      Outgoing.ofParts method url headers payload = .ok ⟨method, u, headers, payload⟩ := by
  obtain ⟨u, hu, hsame⟩ := Option.map_eq_some_iff.1 hplace
  obtain ⟨hscheme, hname⟩ := Prod.mk.inj hsame
  have hnamed : u.hasHost = true := by simpa [Url.hasHost, hname] using hhost
  have hrequest : u.withoutCredentials.isRequestable = true := by
    refine Url.isRequestable_iff.2 ⟨.inr hscheme, ?_⟩
    show (u.host.getD []).any _ = false
    rw [hname]
    exact hchars
  refine ⟨u.withoutCredentials, fun method payload => ?_⟩
  rw [ofParts_of_ofText? hu, if_pos hnamed, if_pos hvalues, if_pos hrequest]

end GeneralApplications.Http
