import GeneralApplications.Errand

/-!
# A platform with versions

A case-data platform that many callers may use at once. It keeps the data of one case with a
version; a token is bound to the version at which its event was started, and a submission is
accepted exactly if that version is still the current one. A submission that is accepted replaces
the data and advances the version, everything else that is submitted is refused and changes nothing.
-/

namespace GeneralApplications

/-- How tokens are bound to versions: the `n`-th token may differ from every other. -/
structure TokenScheme where
  issue (n version : Nat) : String
  versionOf : String → Option Nat
  versionOf_issue : ∀ n version, versionOf (issue n version) = some version

/-- Tokens that consist of the version's digits. -/
def TokenScheme.digits : TokenScheme where
  issue _ version := toString version
  versionOf token := some (Nat.ofDigitChars 10 token.toList 0)
  versionOf_issue _ version := by simp

instance : Inhabited TokenScheme := ⟨.digits⟩

/-- A platform with a case in some version, and the number of tokens it has issued. -/
structure VersionedPlatform where
  case : CaseSnapshot
  version : Nat
  issued : Nat

namespace VersionedPlatform

/-- The errand is a submission that is accepted. -/
def accepts (scheme : TokenScheme) (p : VersionedPlatform) : Errand → Bool
  | .submit case content =>
    case = p.case.id && scheme.versionOf content.token = some p.version
  | .start _ _ | .notify _ => false

/-- What comes of an errand, and the platform after it. What is refused fails with `refusal`. -/
def carryOut (scheme : TokenScheme) (refusal : Failure) (p : VersionedPlatform) :
    (e : Errand) → e.Outcome × VersionedPlatform
  | .start case _ =>
    if case = p.case.id then
      (.ok ⟨scheme.issue p.issued p.version, p.case, none⟩, { p with issued := p.issued + 1 })
    else (.error refusal, p)
  | .submit case content =>
    if p.accepts scheme (.submit case content) then
      let updated := { p.case with data := content.data }
      (.ok updated, { p with case := updated, version := p.version + 1 })
    else (.error refusal, p)
  | .notify _ => (.ok (), p)

/-- Only a submission that is accepted changes the case and its version. -/
theorem carryOut_of_not_accepts {scheme : TokenScheme} (p : VersionedPlatform) (refusal : Failure)
    {e : Errand} (h : p.accepts scheme e = false) :
    (p.carryOut scheme refusal e).2.case = p.case ∧
      (p.carryOut scheme refusal e).2.version = p.version := by
  cases e with
  | start case event =>
    simp only [carryOut]
    split <;> exact ⟨rfl, rfl⟩
  | submit case content => simp [carryOut, h]
  | notify record => exact ⟨rfl, rfl⟩

end VersionedPlatform

end GeneralApplications
