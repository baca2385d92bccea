import SignedUpload.Text.Utf8

/-! UTF-8 both ways. What decodes is the encoding of what it decodes to, a text decodes from its encoding,
and the bytes of texts are in the order of their characters. -/
namespace SignedUpload.Utf8

theorem validNat {n : Nat} (valid : n.isValidChar) : (Char.ofNat n).toNat = n := by
  rw [Char.ofNat,dif_pos valid]
  rfl

theorem byteOf {n : Nat} {byte : UInt8} (same : byte.toNat = n) : UInt8.ofNat n = byte := by
  rw [← same,UInt8.ofNat_toNat]

inductive Leads : Bytes → Partial → Prop where
  | last {read bits low high} (spelled : ∀ byte : UInt8, low ≤ byte.toNat → byte.toNat ≤ high →
      encodeChar (Char.ofNat (bits * 64 + (byte.toNat - 0x80))) = read ++ [byte]) :
      Leads read ⟨1,bits,low,high⟩
  | more {read owed bits low high} (leads : ∀ byte : UInt8, low ≤ byte.toNat → byte.toNat ≤ high →
      Leads (read ++ [byte]) ⟨owed + 1,bits * 64 + (byte.toNat - 0x80),0x80,0xBF⟩) :
      Leads read ⟨owed + 2,bits,low,high⟩

section Spelling
variable {n : Nat} (valid : n.isValidChar)
include valid

theorem encodeOne (range : n < 0x80) : encodeChar (Char.ofNat n) = [UInt8.ofNat n] := by
  simp only [encodeChar,validNat valid,if_pos range]

theorem encodeTwo (range : 0x80 ≤ n ∧ n < 0x800) : encodeChar (Char.ofNat n) =
    [UInt8.ofNat (0xC0 + n / 64),UInt8.ofNat (0x80 + n % 64)] := by
  simp only [encodeChar,validNat valid,if_neg (Nat.not_lt.mpr range.1),if_pos range.2]

theorem encodeThree (range : 0x800 ≤ n ∧ n < 0x10000) : encodeChar (Char.ofNat n) =
    [UInt8.ofNat (0xE0 + n / 4096),UInt8.ofNat (0x80 + n / 64 % 64),UInt8.ofNat (0x80 + n % 64)] := by
  have above : ¬n < 0x80 := by omega
  simp only [encodeChar,validNat valid,if_neg above,if_neg (Nat.not_lt.mpr range.1),if_pos range.2]

theorem encodeFour (range : 0x10000 ≤ n) : encodeChar (Char.ofNat n) =
    [UInt8.ofNat (0xF0 + n / 262144),UInt8.ofNat (0x80 + n / 4096 % 64),
      UInt8.ofNat (0x80 + n / 64 % 64),UInt8.ofNat (0x80 + n % 64)] := by
  have first : ¬n < 0x80 := by omega
  have second : ¬n < 0x800 := by omega
  simp only [encodeChar,validNat valid,if_neg first,if_neg second,if_neg (Nat.not_lt.mpr range)]

end Spelling

section Openings
variable {byte : UInt8} {bits low high : Nat}

theorem leadsTwo (first : byte.toNat = 0xC0 + bits) (range : 2 ≤ bits ∧ bits < 0x20) :
    Leads [byte] ⟨1,bits,0x80,0xBF⟩ := by
  refine .last fun b least most => ?_
  rw [encodeTwo (by simp only [Nat.isValidChar]; omega) (by omega)]
  rw [@byteOf _ byte (by omega),@byteOf _ b (by omega)]
  rfl

theorem leadsThree (first : byte.toNat = 0xE0 + bits) (range : bits < 0x10 ∧ 0x80 ≤ low ∧ high ≤ 0xBF)
    (long : bits = 0 → 0xA0 ≤ low) (whole : bits = 0xD → high ≤ 0x9F) :
    Leads [byte] ⟨2,bits,low,high⟩ := by
  refine .more fun b least most => .last fun c least' most' => ?_
  rw [encodeThree (by simp only [Nat.isValidChar]; omega) (by omega)]
  rw [@byteOf _ byte (by omega),@byteOf _ b (by omega),@byteOf _ c (by omega)]
  rfl

theorem leadsFour (first : byte.toNat = 0xF0 + bits) (range : bits < 5 ∧ 0x80 ≤ low ∧ high ≤ 0xBF)
    (long : bits = 0 → 0x90 ≤ low) (whole : bits = 4 → high ≤ 0x8F) :
    Leads [byte] ⟨3,bits,low,high⟩ := by
  refine .more fun b least most => .more fun c least' most' => .last fun d least'' most'' => ?_
  rw [encodeFour (by simp only [Nat.isValidChar]; omega) (by omega)]
  rw [@byteOf _ byte (by omega),@byteOf _ b (by omega),@byteOf _ c (by omega),
    @byteOf _ d (by omega)]
  rfl

theorem openingWhole {c : Char} (whole : opening byte = .whole c) : encodeChar c = [byte] := by
  simp only [opening] at whole
  split at whole
  · rename_i small
    cases whole
    rw [encodeOne (by simp only [Nat.isValidChar]; omega) small,UInt8.ofNat_toNat]
  · (repeat' split at whole) <;> cases whole

theorem openingBegun {p : Partial} (begun : opening byte = .begun p) : Leads [byte] p := by
  simp only [opening] at begun
  repeat' split at begun
  all_goals cases begun
  · exact leadsTwo (by omega) (by omega)
  · exact leadsThree (by omega) (by omega) (by omega) (by omega)
  · exact leadsThree (by omega) (by omega) (by omega) (by omega)
  · exact leadsThree (by omega) (by omega) (by omega) (by omega)
  · exact leadsFour (by omega) (by omega) (by omega) (by omega)
  · exact leadsFour (by omega) (by omega) (by omega) (by omega)
  · exact leadsFour (by omega) (by omega) (by omega) (by omega)

end Openings

inductive Behind : Option Partial → Bytes → Prop where
  | between : Behind none []
  | inside {p read} (leads : Leads read p) : Behind (some p) read

theorem scanSpells {state : Option Partial} {read bytes : Bytes} {cs : List Char}
    (behind : Behind state read) (all : allSome (scan state bytes) = some cs) :
    cs.flatMap encodeChar = read ++ bytes := by
  induction bytes generalizing state read cs with
  | nil =>
    cases behind with
    | between =>
      cases Option.some.inj all
      rfl
    | inside leads => cases all
  | cons byte rest ih =>
    cases behind with
    | between =>
      simp only [scan] at all
      split at all
      · rename_i c whole
        obtain ⟨later,more,rfl⟩ := Option.map_eq_some_iff.mp all
        rw [List.flatMap_cons,ih .between more,openingWhole whole]
        rfl
      · rename_i p begun
        exact ih (.inside (openingBegun begun)) all
      · cases all
    | inside leads =>
      cases leads with
      | last spelled =>
        simp only [scan,if_true] at all
        split at all
        · rename_i range
          obtain ⟨later,more,rfl⟩ := Option.map_eq_some_iff.mp all
          rw [List.flatMap_cons,ih .between more,spelled byte range.1 range.2]
          simp
        · split at all <;> cases all
      | @more _ owed bits low high leads =>
        have going : owed + 2 ≠ 1 := by omega
        simp only [scan,if_neg going] at all
        split at all
        · rename_i range
          rw [ih (.inside (leads byte range.1 range.2)) all]
          simp
        · split at all <;> cases all

theorem decodeEncode {bytes : Bytes} {s : String} (decoded : decode? bytes = some s) :
    encode s = bytes := by
  obtain ⟨cs,all,rfl⟩ := Option.map_eq_some_iff.mp decoded
  rw [encode,String.toList_ofList]
  exact scanSpells .between all

theorem byteNat {n : Nat} (small : n < 256) : (UInt8.ofNat n).toNat = n :=
  UInt8.toNat_ofNat_of_lt' small

theorem encodeSome (c : Char) : encodeChar c ≠ [] := by
  unfold encodeChar
  simp only
  repeat' split
  all_goals exact List.cons_ne_nil _ _

theorem charBelow (c : Char) : c.toNat < 0x110000 := by
  rcases c.valid with low | ⟨-,high⟩
  · exact Nat.lt_trans low (by decide)
  · exact high

theorem encodeBefore {c d : Char} (less : c < d) (x y : Bytes) :
    encodeChar c ++ x < encodeChar d ++ y := by
  have below : c.toNat < d.toNat := less
  have top := charBelow d
  unfold encodeChar
  simp only
  -- One case for each pair of lengths; a longer spelling never comes first.
  repeat' split
  all_goals
    simp (disch := omega) only [List.cons_append,List.nil_append,List.cons_lt_cons_iff,
      UInt8.lt_iff_toNat_lt,← UInt8.toNat_inj,byteNat]
    omega

theorem encodeOrdered {a b : String} (less : a < b) : encode a < encode b := by
  rw [String.lt_iff] at less
  unfold encode
  generalize a.toList = cs at less
  generalize b.toList = ds at less
  induction less with
  | @nil d ds =>
    cases spelled : encodeChar d with
    | nil => exact absurd spelled (encodeSome d)
    | cons byte rest =>
      rw [List.flatMap_cons,spelled]
      exact List.nil_lt_cons _ _
  | rel before => exact encodeBefore before _ _
  | cons _ ih => exact List.append_left_lt ih

section Scan
variable {byte : UInt8} {bits low high : Nat} (range : low ≤ byte.toNat ∧ byte.toNat ≤ high)
  (rest : Bytes)
include range

theorem scanLast : scan (some ⟨1,bits,low,high⟩) (byte :: rest) =
    some (Char.ofNat (bits * 64 + (byte.toNat - 0x80))) :: scan none rest := by
  simp only [scan,if_pos range,if_true]

theorem scanMore (owed : Nat) : scan (some ⟨owed + 2,bits,low,high⟩) (byte :: rest) =
    scan (some ⟨owed + 1,bits * 64 + (byte.toNat - 0x80),0x80,0xBF⟩) rest := by
  have going : owed + 2 ≠ 1 := by omega
  simp only [scan,if_pos range,if_neg going]
  rfl

end Scan

theorem scanOpened {byte : UInt8} {p : Partial} (begun : opening byte = .begun p) (rest : Bytes) :
    scan none (byte :: rest) = scan (some p) rest := by
  simp only [scan,begun]

theorem openingThree {n : Nat} (valid : n < 0xD800 ∨ 0xDFFF < n) (range : 0x800 ≤ n ∧ n < 0x10000) :
    ∃ low high, opening (UInt8.ofNat (0xE0 + n / 4096)) = .begun ⟨2,n / 4096,low,high⟩ ∧
      low ≤ 0x80 + n / 64 % 64 ∧ 0x80 + n / 64 % 64 ≤ high := by
  by_cases first : n / 4096 = 0
  · exact ⟨0xA0,0xBF,by rw [first]; rfl,by omega,by omega⟩
  by_cases last : n / 4096 = 0xD
  · exact ⟨0x80,0x9F,by rw [last]; rfl,by omega,by omega⟩
  refine ⟨0x80,0xBF,?_,by omega,by omega⟩
  simp (disch := omega) only [opening,byteNat,if_pos,if_neg,Nat.add_sub_cancel_left]

theorem openingFour {n : Nat} (range : 0x10000 ≤ n ∧ n < 0x110000) :
    ∃ low high, opening (UInt8.ofNat (0xF0 + n / 262144)) = .begun ⟨3,n / 262144,low,high⟩ ∧
      low ≤ 0x80 + n / 4096 % 64 ∧ 0x80 + n / 4096 % 64 ≤ high := by
  by_cases first : n / 262144 = 0
  · exact ⟨0x90,0xBF,by rw [first]; rfl,by omega,by omega⟩
  by_cases last : n / 262144 = 4
  · exact ⟨0x80,0x8F,by rw [last]; rfl,by omega,by omega⟩
  refine ⟨0x80,0xBF,?_,by omega,by omega⟩
  simp (disch := omega) only [opening,byteNat,if_pos,if_neg,Nat.add_sub_cancel_left]

theorem scanChar (c : Char) (rest : Bytes) :
    scan none (encodeChar c ++ rest) = some c :: scan none rest := by
  have valid : c.toNat < 0xD800 ∨ 0xDFFF < c.toNat ∧ c.toNat < 0x110000 := c.valid
  have spelled : ∀ m, m = c.toNat → Char.ofNat m = c := fun m same => by rw [same,Char.ofNat_toNat]
  unfold encodeChar
  generalize c.toNat = n at valid spelled
  simp only
  split
  · have opened : opening (UInt8.ofNat n) = .whole c := by
      simp (disch := omega) only [opening,byteNat,if_pos,spelled n rfl]
    simp only [List.cons_append,List.nil_append,scan,opened]
  split
  · have opened : opening (UInt8.ofNat (0xC0 + n / 64)) = .begun ⟨1,n / 64,0x80,0xBF⟩ := by
      simp (disch := omega) only [opening,byteNat,if_pos,if_neg,Nat.add_sub_cancel_left]
    simp only [List.cons_append,List.nil_append]
    rw [scanOpened opened,scanLast (by rw [byteNat] <;> omega),spelled _ (by rw [byteNat] <;> omega)]
  split
  · obtain ⟨low,high,opened,least,most⟩ := openingThree (n := n) (by omega) (by omega)
    have second := byteNat (n := 0x80 + n / 64 % 64) (by omega)
    have third := byteNat (n := 0x80 + n % 64) (by omega)
    simp only [List.cons_append,List.nil_append]
    rw [scanOpened opened,scanMore (by omega),scanLast (by omega),spelled _ (by omega)]
  · obtain ⟨low,high,opened,least,most⟩ := openingFour (n := n) (by omega)
    have second := byteNat (n := 0x80 + n / 4096 % 64) (by omega)
    have third := byteNat (n := 0x80 + n / 64 % 64) (by omega)
    have fourth := byteNat (n := 0x80 + n % 64) (by omega)
    simp only [List.cons_append,List.nil_append]
    rw [scanOpened opened,scanMore (by omega),scanMore (by omega),scanLast (by omega),
      spelled _ (by omega)]

theorem scanEncoded (cs : List Char) : scan none (cs.flatMap encodeChar) = cs.map some := by
  induction cs with
  | nil => rfl
  | cons c rest ih => rw [List.flatMap_cons,scanChar,ih,List.map_cons]

theorem lossyEncode (s : String) : decodeLossy (encode s) = s := by
  rw [decodeLossy,encode,scanEncoded,List.map_map]
  simp [Function.comp_def]

theorem allSomeWhole (cs : List Char) : allSome (cs.map some) = some cs := by
  induction cs with
  | nil => rfl
  | cons c rest ih => rw [List.map_cons,allSome,ih,Option.map_some]

theorem decodeIff {bytes : Bytes} {s : String} : decode? bytes = some s ↔ encode s = bytes := by
  refine ⟨decodeEncode,?_⟩
  rintro rfl
  rw [decode?,encode,scanEncoded,allSomeWhole,Option.map_some,String.ofList_toList]

theorem encodeInjective {s t : String} (same : encode s = encode t) : s = t :=
  Option.some.inj ((decodeIff.mpr rfl).symm.trans (decodeIff.mpr same.symm))

theorem encodeAscii {c : Char} {byte : UInt8} (mem : byte ∈ encodeChar c) (small : byte.toNat < 0x80) :
    c.toNat = byte.toNat := by
  have top := charBelow c
  unfold encodeChar at mem
  simp only at mem
  repeat' split at mem
  all_goals
    simp only [List.mem_cons,List.not_mem_nil,or_false,← UInt8.toNat_inj] at mem
    simp (disch := omega) only [byteNat] at mem
    omega

end SignedUpload.Utf8
