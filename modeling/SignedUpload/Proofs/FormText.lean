import SignedUpload.Proofs.Pieces
import SignedUpload.Proofs.Utf8
import SignedUpload.Http.Form

/-! Forms read back. A byte is written so that it is read alone, whatever follows it, and is never written
with an ampersand or an equals sign; so the pairs of a form are cut where they were joined. -/
namespace SignedUpload.Http.Form

theorem plainRange {b : UInt8} (plain : isPlain b = true) :
    b.toNat < 0x80 ∧ b.toNat ≠ 37 ∧ b.toNat ≠ 38 ∧ b.toNat ≠ 43 ∧ b.toNat ≠ 61 := by
  simp only [isPlain,Bool.or_eq_true,Bool.and_eq_true,decide_eq_true_eq,beq_iff_eq,
    UInt8.le_iff_toNat_le,← UInt8.toNat_inj] at plain
  change ((((((48 ≤ b.toNat ∧ b.toNat ≤ 57) ∨ (65 ≤ b.toNat ∧ b.toNat ≤ 90)) ∨
    (97 ≤ b.toNat ∧ b.toNat ≤ 122)) ∨ b.toNat = 42) ∨ b.toNat = 45) ∨ b.toNat = 46) ∨
      b.toNat = 95 at plain
  omega

theorem plainOther {b : UInt8} (plain : isPlain b = true) {c : Char} (mark : c ∈ ['%','&','+','=']) :
    Char.ofNat b.toNat ≠ c := by
  obtain ⟨range,percent,ampersand,plus,equals⟩ := plainRange plain
  have code : (Char.ofNat b.toNat).toNat = b.toNat := Utf8.validNat (.inl (by omega))
  intro same
  rw [same] at code
  simp only [List.mem_cons,List.not_mem_nil,or_false] at mark
  rcases mark with rfl | rfl | rfl | rfl
  · exact percent code.symm
  · exact ampersand code.symm
  · exact plus code.symm
  · exact equals code.symm

theorem hexDigitRead {n : Nat} (small : n < 16) : Text.hexValue? (hexDigit n) = some n := by
  revert n
  decide

theorem hexDigitOther {n : Nat} (small : n < 16) : hexDigit n ≠ '&' ∧ hexDigit n ≠ '=' := by
  revert n
  decide

theorem byteParts (b : UInt8) : b.toNat / 16 < 16 ∧ b.toNat % 16 < 16 ∧
    UInt8.ofNat (b.toNat / 16 * 16 + b.toNat % 16) = b := by
  have small := b.toNat_lt
  refine ⟨by omega,by omega,?_⟩
  rw [Nat.div_add_mod']
  exact Utf8.byteOf rfl

theorem decodeOther {c : Char} (plus : c ≠ '+') (mark : c ≠ '%') (rest : List Char) :
    decodeBytes (c :: rest) = Utf8.encodeChar c ++ decodeBytes rest := by
  rw [decodeBytes]
  · exact plus
  · exact fun _ _ _ same => absurd same mark

theorem decodePercent (b : UInt8) (rest : List Char) :
    decodeBytes (percent b ++ rest) = b :: decodeBytes rest := by
  obtain ⟨high,low,whole⟩ := byteParts b
  simp only [percent,List.cons_append,List.nil_append,decodeBytes,hexDigitRead high,
    hexDigitRead low,whole]

theorem decodeByte (b : UInt8) (rest : List Char) :
    decodeBytes (encodeByte b ++ rest) = b :: decodeBytes rest := by
  unfold encodeByte
  split
  case isTrue plain =>
    obtain ⟨range,-⟩ := plainRange plain
    rw [List.singleton_append,decodeOther (plainOther plain (by decide)) (plainOther plain (by decide)),
      Utf8.encodeOne (.inl (by omega)) range,Utf8.byteOf rfl]
    rfl
  split
  case isTrue blank =>
    rw [blank]
    rfl
  · exact decodePercent b rest

theorem byteSolid {b : UInt8} {c : Char} (mem : c ∈ encodeByte b) : c ≠ '&' ∧ c ≠ '=' := by
  unfold encodeByte at mem
  split at mem
  case isTrue plain =>
    obtain rfl := List.mem_singleton.mp mem
    exact ⟨plainOther plain (by decide),plainOther plain (by decide)⟩
  split at mem
  · obtain rfl := List.mem_singleton.mp mem
    decide
  · obtain ⟨high,low,-⟩ := byteParts b
    simp only [percent,List.mem_cons,List.not_mem_nil,or_false] at mem
    rcases mem with rfl | rfl | rfl
    · decide
    · exact hexDigitOther high
    · exact hexDigitOther low

theorem decodeBehind (bytes : Bytes) (rest : List Char) :
    decodeBytes (bytes.flatMap encodeByte ++ rest) = bytes ++ decodeBytes rest := by
  induction bytes with
  | nil => rfl
  | cons b bytes ih => rw [List.flatMap_cons,List.append_assoc,decodeByte,ih,List.cons_append]

theorem textBack (s : String) : decodeText (encodeText s) = s := by
  have bytes := decodeBehind (Utf8.encode s) []
  rw [List.append_nil] at bytes
  rw [decodeText,encodeText,bytes,decodeBytes,List.append_nil,Utf8.lossyEncode]

theorem textSolid (s : String) : '&' ∉ encodeText s ∧ '=' ∉ encodeText s := by
  constructor <;> intro mem <;> obtain ⟨b,-,mem⟩ := List.mem_flatMap.mp mem
  · exact (byteSolid mem).1 rfl
  · exact (byteSolid mem).2 rfl

theorem pairBack (e : String × String) : decodePair (encodePair e) = e := by
  simp only [decodePair,encodePair,cutFirst (textSolid e.1).2,textBack]

theorem pairSolid (e : String × String) : '&' ∉ encodePair e := by
  simp [encodePair,(textSolid e.1).1,(textSolid e.2).1]

theorem pairSome (e : String × String) : encodePair e ≠ [] := by
  simp [encodePair]

theorem charsBack (entries : List (String × String)) :
    ((pieces '&' (encodeChars entries)).filter (· ≠ [])).map decodePair = entries := by
  induction entries using encodeChars.induct with
  | case1 => rfl
  | case2 e =>
    rw [encodeChars,piecesPlain (pairSolid e),List.filter_cons_of_pos (by simp [pairSome])]
    simp [pairBack]
  | case3 e f rest ih =>
    rw [encodeChars,piecesAppend,piecesPlain (pairSolid e),List.singleton_append,
      List.filter_cons_of_pos (by simp [pairSome]),List.map_cons,pairBack,ih]

theorem decodeEncode (entries : List (String × String)) : decode (encode entries) = entries := by
  rw [decode,encode,String.toList_ofList,charsBack]

end SignedUpload.Http.Form
