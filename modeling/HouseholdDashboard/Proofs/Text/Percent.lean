import HouseholdDashboard.Text.Percent

/-!
# Encoded text can be read back

`decode?_encode`: a text comes back from its percent-encoded form, whatever characters it has.
What makes the form safe to put between separators is `mem_encode`: it is made of percent signs
and of bytes that stand for themselves.
-/

namespace HouseholdDashboard.Text

/-- What holds of the numbers below 256 holds of the bytes. -/
theorem forall_byte {p : UInt8 → Prop} (holds : ∀ n < 256, p (UInt8.ofNat n)) (b : UInt8) :
    p b := by
  have this := holds b.toNat b.toNat_lt_size
  rwa [UInt8.ofNat_toNat] at this

/-! ## The bytes of a text -/

/-- What the loop has passed is in the collected bytes, last one first. -/
theorem toList_loop_eq (bs : ByteArray) (i : Nat) (collected : List UInt8) :
    ByteArray.toList.loop bs i collected = collected.reverse ++ bs.data.toList.drop i := by
  induction i, collected using ByteArray.toList.loop.induct bs with
  | case1 i collected inside ih =>
    have here : bs.data.toList.drop i = bs.get! i :: bs.data.toList.drop (i + 1) := by
      rw [List.drop_eq_getElem_cons (by simpa using inside)]
      congr 1
      exact (getElem!_pos bs.data i inside).symm
    rw [ByteArray.toList.loop, if_pos inside, ih, here, List.reverse_cons, List.append_assoc]
    rfl
  | case2 i collected past =>
    have nothing : bs.data.toList.drop i = [] :=
      List.drop_eq_nil_of_le (by simpa using past)
    rw [ByteArray.toList.loop, if_neg past, nothing, List.append_nil]

theorem bytes_eq (s : String) : bytes s = s.toByteArray.data.toList := by
  rw [bytes, String.toUTF8_eq_toByteArray, ByteArray.toList, toList_loop_eq]
  rfl

/-- The bytes of a text are text. -/
theorem ofBytes?_bytes (s : String) : ofBytes? (bytes s) = some s := by
  rw [bytes_eq, ofBytes?, Array.toArray_toList, String.fromUTF8?, dif_pos s.isValidUTF8]
  rfl

/-- A byte below 128 is the whole UTF-8 form of its character. -/
theorem utf8EncodeChar_ofNat : ∀ b : UInt8,
    b < 0x80 → String.utf8EncodeChar (Char.ofNat b.toNat) = [b] :=
  forall_byte (by decide +kernel)

/-- Text of characters below 128 has a byte for each of them. -/
theorem bytes_ofList {bs : List UInt8} (ascii : ∀ b ∈ bs, b < 0x80) :
    bytes (String.ofList (bs.map fun b => Char.ofNat b.toNat)) = bs := by
  rw [bytes_eq, String.toByteArray_ofList, List.utf8Encode, List.data_toByteArray]
  induction bs with
  | nil => rfl
  | cons b bs ih =>
    have rest := ih fun c mem => ascii c (List.mem_cons_of_mem b mem)
    rw [List.map_cons, List.flatMap_cons, utf8EncodeChar_ofNat b (ascii b List.mem_cons_self)]
    exact congrArg (b :: ·) rest

namespace Percent

/-! ## One byte -/

/-- Both digits of a byte are read back, and the byte is put together from them. -/
theorem hexValue?_digits : ∀ b : UInt8,
    hexValue? (hexByte (b / 16)) = some (b / 16) ∧ hexValue? (hexByte (b % 16)) = some (b % 16) ∧
      b / 16 * 16 + b % 16 = b :=
  forall_byte (by decide +kernel)

theorem isPlain_hexByte : ∀ b : UInt8,
    isPlain (hexByte (b / 16)) = true ∧ isPlain (hexByte (b % 16)) = true :=
  forall_byte (by decide +kernel)

theorem decodeBytes_plain {b : UInt8} (plain : b ≠ 0x25) (rest : List UInt8) :
    decodeBytes (b :: rest) = b :: decodeBytes rest := by
  rw [decodeBytes]
  intro _ _ _ same
  exact absurd same plain

theorem decodeBytes_encodeByte (b : UInt8) (rest : List UInt8) :
    decodeBytes (encodeByte b ++ rest) = b :: decodeBytes rest := by
  unfold encodeByte
  split
  · rename_i plain
    exact decodeBytes_plain (fun same => by rw [same] at plain; cases plain) rest
  · obtain ⟨high, low, whole⟩ := hexValue?_digits b
    simp only [List.cons_append, List.nil_append, decodeBytes, high, low, whole]

/-- A byte of an encoded form is a percent sign or stands for itself. -/
theorem mem_encodeByte {b c : UInt8} (mem : c ∈ encodeByte b) :
    c = 0x25 ∨ isPlain c = true := by
  unfold encodeByte at mem
  split at mem
  · rename_i plain
    exact .inr (List.mem_singleton.mp mem ▸ plain)
  · obtain ⟨high, low⟩ := isPlain_hexByte b
    simp only [List.mem_cons, List.not_mem_nil, or_false] at mem
    rcases mem with rfl | rfl | rfl
    · exact .inl rfl
    · exact .inr high
    · exact .inr low

/-! ## A text -/

theorem decodeBytes_encodeBytes (bs : List UInt8) : decodeBytes (encodeBytes bs) = bs := by
  induction bs with
  | nil => rfl
  | cons b bs ih =>
    show decodeBytes (encodeByte b ++ encodeBytes bs) = b :: bs
    rw [decodeBytes_encodeByte, ih]

theorem mem_encodeBytes {bs : List UInt8} {c : UInt8} (mem : c ∈ encodeBytes bs) :
    c = 0x25 ∨ isPlain c = true := by
  obtain ⟨b, -, mem⟩ := List.mem_flatMap.mp mem
  exact mem_encodeByte mem

theorem plain_lt : ∀ b : UInt8, b = 0x25 ∨ isPlain b = true → b < 0x80 :=
  forall_byte (by decide +kernel)

/-- The encoded form has no characters but percent signs and those that stand for themselves. -/
theorem mem_encode {s : String} {c : Char} (mem : c ∈ (encode s).toList) :
    ∃ b : UInt8, (b = 0x25 ∨ isPlain b = true) ∧ c = Char.ofNat b.toNat := by
  rw [encode, String.toList_ofList] at mem
  obtain ⟨b, encoded, rfl⟩ := List.mem_map.mp mem
  exact ⟨b, mem_encodeBytes encoded, rfl⟩

theorem decode?_encode (s : String) : decode? (encode s) = some s := by
  rw [decode?, encode, bytes_ofList fun b mem => plain_lt b (mem_encodeBytes mem),
    decodeBytes_encodeBytes, ofBytes?_bytes]

end Percent

end HouseholdDashboard.Text
