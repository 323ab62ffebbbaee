/-
Text on the wire: the UTF-8 bytes of a text, and the text that given bytes
spell, if they spell one. Overlong forms and surrogates spell nothing.
-/

namespace FiatAccounts.Text.Utf8

/-- The UTF-8 bytes of a text. -/
def encode (text : String) : List UInt8 :=
  text.toUTF8.data.toList

/-- The text whose UTF-8 bytes these are. -/
def decode? (bytes : List UInt8) : Option String :=
  String.fromUTF8? ⟨bytes.toArray⟩

/-- Reading back what was written gives the same text. -/
theorem decode?_encode (text : String) : decode? (encode text) = some text := by
  simp [decode?, encode, String.fromUTF8?, String.fromUTF8, text.isValidUTF8]

/-- Texts with the same bytes are the same text. -/
theorem encode_inj {text other : String} (h : encode text = encode other) :
    text = other := by
  have hdecode := congrArg decode? h
  rw [decode?_encode, decode?_encode] at hdecode
  exact Option.some.inj hdecode

/-- Bytes that spell a text are the bytes of that text. -/
theorem eq_encode_of_decode? {bytes : List UInt8} {text : String}
    (h : decode? bytes = some text) :
    bytes = encode text := by
  unfold decode? String.fromUTF8? at h
  split at h
  · cases h; rfl
  · cases h

/-- Texts are written one after the other. -/
theorem encode_append (text other : String) :
    encode (text ++ other) = encode text ++ encode other := by
  simp [encode]

/-- Only the empty text has no bytes. -/
theorem encode_eq_nil {text : String} : encode text = [] ↔ text = "" := by
  constructor
  · intro h
    exact encode_inj (h.trans (by decide : [] = encode ""))
  · intro h
    rw [h]
    decide

end FiatAccounts.Text.Utf8
