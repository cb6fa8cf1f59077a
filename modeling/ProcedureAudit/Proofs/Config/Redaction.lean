import ProcedureAudit.Config.Basic
import ProcedureAudit.Proofs.Text.Basic

/-!
# The log shows nothing of a password

A password stands in an address as it is, without any escape, so it may contain each of the three
separators at which the address is cut: the at sign, the end of the scheme and the colon.  The cuts
fall outside it all the same.  The last at sign is the one behind the password or a later one, the
first end of a scheme is that of the address itself, and the first colon after it is the one behind
the user.  What is left is the user and the place, so configurations that differ in the password
alone look the same in the log.
-/

namespace ProcedureAudit.Configuration

/-- An address with a user and a password, both written without escapes. -/
def credentialAddress (user password rest : Text) : Text :=
  Config.addressScheme ++ (user ++ ':' :: (password ++ '@' :: rest))

/-- What stands after the last at sign, which is everything if there is none. -/
def placeOf (rest : Text) : Text :=
  ((Text.splitAtLast? '@' rest).map Prod.snd).getD rest

theorem placeOf_append_cons {after : Text} (absent : '@' ∉ after) (before : Text) :
    placeOf (before ++ '@' :: after) = after := by
  rw [placeOf, Text.splitAtLast?_append_cons absent]
  rfl

theorem placeOf_of_not_mem {rest : Text} (absent : '@' ∉ rest) : placeOf rest = rest := by
  rw [placeOf, Text.splitAtLast?_of_not_mem absent]
  rfl

/-- An address that names the user and the place, with a mask in between. -/
def maskedAddress (user place : Text) : Text :=
  Config.addressScheme ++ user ++ ":***@".toList ++ place

/-- The last at sign lies behind the password, so the part before it still begins with the user. -/
theorem exists_splitAtLast?_credentialAddress (user password rest : Text) :
    ∃ secret, Text.splitAtLast? '@' (credentialAddress user password rest) =
      some (Config.addressScheme ++ (user ++ ':' :: secret), placeOf rest) := by
  by_cases further : '@' ∈ rest
  · obtain ⟨before, after, rfl, absent⟩ := Text.exists_append_last_of_mem further
    have split : credentialAddress user password (before ++ '@' :: after) =
        (Config.addressScheme ++ (user ++ ':' :: (password ++ '@' :: before))) ++
          '@' :: after := by
      simp [credentialAddress]
    refine ⟨password ++ '@' :: before, ?_⟩
    rw [split, placeOf_append_cons absent, Text.splitAtLast?_append_cons absent]
  · have split : credentialAddress user password rest =
        (Config.addressScheme ++ (user ++ ':' :: password)) ++ '@' :: rest := by
      simp [credentialAddress]
    refine ⟨password, ?_⟩
    rw [split, placeOf_of_not_mem further, Text.splitAtLast?_append_cons further]

/-- The scheme of the address is the first one, whatever stands behind it. -/
theorem splitScheme_addressScheme_append (text : Text) :
    splitScheme (Config.addressScheme ++ text) = ("mysql".toList, text) :=
  rfl

theorem takeWhile_user {user : Text} (colonless : ':' ∉ user) (secret : Text) :
    (user ++ ':' :: secret).takeWhile (· ≠ ':') = user := by
  refine Text.takeWhile_append_of_head? ?_ (by simp)
  intro character member
  exact decide_eq_true fun same => colonless (same ▸ member)

/-- The address in the log is a function of the user and of the place. -/
theorem redactAddress_credentialAddress
    {user : Text}
    (colonless : ':' ∉ user)
    (password rest : Text) :
    redactAddress (credentialAddress user password rest) =
      maskedAddress user (placeOf rest) := by
  obtain ⟨secret, split⟩ := exists_splitAtLast?_credentialAddress user password rest
  have parts := splitScheme_addressScheme_append (user ++ ':' :: secret)
  have colon : ':' ∈ (splitScheme (Config.addressScheme ++ (user ++ ':' :: secret))).2 := by
    simp [parts]
  simp only [redactAddress, split]
  rw [if_pos colon, parts, takeWhile_user colonless]
  rfl

/--
Two configurations that differ in the password alone look the same in the log, which masks the
password between the user and the place.  In every configuration, the address is the only field
that the log may show differently.
-/
theorem redacted_hides_password
    (configuration : Configuration)
    {user : Text}
    (colonless : ':' ∉ user)
    (rest first second : Text) :
    { configuration with address := credentialAddress user first rest }.redacted =
        { configuration with address := credentialAddress user second rest }.redacted ∧
      { configuration with address := credentialAddress user first rest }.redacted.address =
        maskedAddress user (placeOf rest) ∧
      ∀ shown : Configuration, { shown.redacted with address := shown.address } = shown := by
  have masked := redactAddress_credentialAddress colonless
  refine ⟨?_, masked first rest, fun shown => rfl⟩
  calc { configuration with address := credentialAddress user first rest }.redacted
      = { configuration with address := maskedAddress user (placeOf rest) } := by
        simp only [redacted, masked]
    _ = { configuration with address := credentialAddress user second rest }.redacted := by
        simp only [redacted, masked]

/-- A password may hold every separator, and a further at sign may stand behind the place. -/
theorem redacted_hides_password_separators :
    let shown (address : String) : Configuration :=
      Configuration.redacted { address := address.toList }
    ':' ∉ "fxa".toList ∧
      shown "mysql://fxa:a@b:c/d://e@db:3306/fxa?tag=x@y" =
        shown "mysql://fxa:@db:3306/fxa?tag=x@y" ∧
      (shown "mysql://fxa:a@b:c/d://e@db:3306/fxa?tag=x@y").address =
        "mysql://fxa:***@y".toList := by
  have colonless : ':' ∉ "fxa".toList := by decide
  have hidden := redacted_hides_password {} colonless "db:3306/fxa?tag=x@y".toList
    "a@b:c/d://e".toList []
  exact ⟨colonless, hidden.1, hidden.2.1⟩

end ProcedureAudit.Configuration
