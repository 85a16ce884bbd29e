import TileQuest.Fault

/-!
# Text as bytes

Text is kept in files as UTF-8.
-/

namespace TileQuest

namespace Text

def encode (s : String) : List UInt8 := s.toUTF8.data.toList

/-- The text that the bytes stand for, if they are UTF-8. -/
def decode (bytes : List UInt8) : Except Fault String :=
  match String.fromUTF8? ⟨bytes.toArray⟩ with
  | some s => .ok s
  | none => .error .notUtf8

theorem decode_encode (s : String) : decode (encode s) = .ok s := by
  have h : (⟨(encode s).toArray⟩ : ByteArray) = s.toUTF8 := by simp [encode]
  have hv : s.toUTF8.IsValidUTF8 := s.isValidUTF8
  simp only [decode, h, String.fromUTF8?, hv, dif_pos]
  rfl

end Text

end TileQuest
