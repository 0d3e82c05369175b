/-
  ScriptingBindings.Content
  ──────────────────────────────────
  **THE CONTENT OF A FILE.**

  Files and answers from the network hold bytes.  Where these are the UTF-8
  form of a text, the text stands for them; all other bytes are kept as they
  are.  So a sequence of bytes is one content, and a content one sequence of
  bytes:

      (ofBytes b).bytes = b        ofBytes c.bytes = c
-/

namespace ScriptingBindings

/-! ## §1. Contents. -/

/-- Bytes that are the UTF-8 form of no text. -/
structure RawBytes where
  bytes : ByteArray
  isRaw : ¬ bytes.IsValidUTF8

/-- The bytes decide whether two are the same. -/
instance : DecidableEq RawBytes
  | ⟨⟨as⟩, _⟩, ⟨⟨bs⟩, _⟩ => decidable_of_iff (as = bs) (by simp)

/-- What a file holds. -/
inductive Content where
  /-- A text in UTF-8. -/
  | text (s : String)
  /-- Bytes that are no such text. -/
  | raw (b : RawBytes)
  deriving DecidableEq

namespace Content

/-- The bytes of a content. -/
def bytes : Content → ByteArray
  | text s => s.toByteArray
  | raw b => b.bytes

/-- The numbers of the bytes. -/
def byteValues (c : Content) : List Nat :=
  c.bytes.toList.map UInt8.toNat

/-- The text of a content, if it has one. -/
def text? : Content → Option String
  | text s => some s
  | raw _ => none

/-- The content that bytes are. -/
def ofBytes (bytes : ByteArray) : Content :=
  if h : bytes.IsValidUTF8 then text (.ofByteArray bytes h) else raw ⟨bytes, h⟩

theorem bytes_ofBytes (bytes : ByteArray) : (ofBytes bytes).bytes = bytes := by
  unfold ofBytes
  split
  next => rfl
  next => rfl

theorem ofBytes_bytes (c : Content) : ofBytes c.bytes = c := by
  cases c with
  | text s => exact dif_pos s.isValidUTF8
  | raw b => exact dif_neg b.isRaw

/-! ## §2. Text at the end. -/

/-- Bytes stay no text whatever text is added to them: where the text starts, a character of the
whole would have to start. -/
theorem isRaw_append {b : ByteArray} (h : ¬ b.IsValidUTF8) (s : String) :
    ¬ (b ++ s.toByteArray).IsValidUTF8 := by
  intro hwhole
  let whole := String.ofByteArray (b ++ s.toByteArray) hwhole
  have hsize : whole.utf8ByteSize = b.size + s.toByteArray.size := ByteArray.size_append
  have hrest : whole.toByteArray.extract b.size whole.utf8ByteSize = s.toByteArray :=
    ByteArray.extract_append_eq_right rfl hsize
  have hfirst : whole.toByteArray.extract 0 b.size = b := ByteArray.extract_append_eq_left rfl
  have hvalid : String.Pos.Raw.IsValid whole ⟨b.size⟩ :=
    String.Pos.Raw.isValid_iff_isValidUTF8_extract_utf8ByteSize.mpr
      ⟨by simp [String.Pos.Raw.le_iff, hsize], hrest ▸ s.isValidUTF8⟩
  exact h (hfirst ▸ (String.Pos.Raw.isValid_iff_isValidUTF8_extract_zero.mp hvalid).2)

/-- A content with a text at its end. -/
def append (c : Content) (s : String) : Content :=
  match c with
  | text t => text (t ++ s)
  | raw b => raw ⟨b.bytes ++ s.toByteArray, isRaw_append b.isRaw s⟩

@[simp] theorem append_text (s t : String) : (text s).append t = text (s ++ t) := rfl

/-- The bytes of the text come behind those that were there. -/
theorem bytes_append (c : Content) (s : String) :
    (c.append s).bytes = c.bytes ++ s.toByteArray := by
  cases c with
  | text t => exact String.toByteArray_append
  | raw b => rfl

/-- Contents with the same bytes are the same. -/
theorem bytes_inj {c d : Content} : c.bytes = d.bytes ↔ c = d := by
  refine ⟨fun h => ?_, congrArg bytes⟩
  rw [← ofBytes_bytes c, h, ofBytes_bytes]

@[simp] theorem append_empty (c : Content) : c.append "" = c :=
  bytes_inj.mp ((bytes_append c "").trans (by simp))

theorem append_append (c : Content) (s t : String) : (c.append s).append t = c.append (s ++ t) := by
  rw [← bytes_inj, bytes_append, bytes_append, bytes_append, String.toByteArray_append,
    ByteArray.append_assoc]

end Content

end ScriptingBindings
