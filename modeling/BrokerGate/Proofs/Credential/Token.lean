import BrokerGate.Credential
import BrokerGate.Proofs.Text.Ascii

/-! Tokens that make a header value, told by their bytes. -/
namespace BrokerGate.BearerToken
open Text Http

/-- The token holds a control that no header value may hold. -/
def Unsendable (t : BearerToken) : Prop :=
  ∃ b ∈ Utf8.ofString t.secret, (b < 0x20 ∧ b ≠ 9) ∨ b = 0x7F

instance (t : BearerToken) : Decidable t.Unsendable :=
  inferInstanceAs (Decidable (∃ b ∈ Utf8.ofString t.secret, (b < 0x20 ∧ b ≠ 9) ∨ b = 0x7F))

/-- The header value that carries the token. -/
def bearerValue (t : BearerToken) : FieldValue := ⟨Utf8.ofString ("Bearer " ++ t.secret), true⟩

theorem isAllowedByte_eq_false_iff {b : UInt8} :
    FieldValue.isAllowedByte b = false ↔ (b < 0x20 ∧ b ≠ 9) ∨ b = 0x7F :=
  forall_byte (p := fun b => FieldValue.isAllowedByte b = false ↔ (b < 0x20 ∧ b ≠ 9) ∨ b = 0x7F)
    (by decide +kernel) b

/-- The word before the token is always allowed. -/
theorem all_isAllowedByte_iff (t : BearerToken) :
    (Utf8.ofString ("Bearer " ++ t.secret)).all FieldValue.isAllowedByte = true ↔
      ¬ t.Unsendable := by
  have hcut : Utf8.ofString ("Bearer " ++ t.secret) =
      Utf8.ofString "Bearer " ++ Utf8.ofString t.secret := by
    rw [Utf8.ofString, String.toList_append, Utf8.encode, List.flatMap_append]
    rfl
  have hword : (Utf8.ofString "Bearer ").all FieldValue.isAllowedByte = true := by decide +kernel
  rw [hcut, List.all_append, hword, Bool.true_and, List.all_eq_true, Unsendable]
  simp only [← isAllowedByte_eq_false_iff, not_exists, not_and, Bool.not_eq_false]

theorem authorization_of_unsendable {t : BearerToken} (h : t.Unsendable) :
    t.authorization = .error (.credential "token is not a valid header value") := by
  rw [authorization, FieldValue.ofBytes?, if_neg]
  rw [all_isAllowedByte_iff]
  exact not_not_intro h

theorem authorization_of_sendable {t : BearerToken} (h : ¬ t.Unsendable) :
    t.authorization = .ok t.bearerValue := by
  rw [authorization, FieldValue.ofBytes?, if_pos ((all_isAllowedByte_iff t).mpr h)]
  rfl

end BrokerGate.BearerToken
