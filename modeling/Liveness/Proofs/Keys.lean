import Liveness.Proofs.Base64
import Liveness.Proofs.Operators

/-!
# Consensus keys

All spellings of a key give the same consensus address, and nothing else gives one. A key is spelled
in Base64 with blanks around it, or in Bech32 behind the type prefix, with either checksum and in
either case. It may also stand in Bech32 without the prefix, unless it begins with the prefix
itself: then the first bytes are taken for the prefix, and what is left is too short.
-/

namespace Liveness

open Bech32 Text

variable {s t a address : String} {b : UInt8} {bytes key : List UInt8} {ws : List Word}
  {k : ConsensusKey}

/-! ## Texts as bytes -/

namespace Text

theorem toList_loop (bs : ByteArray) (i : Nat) (read : List UInt8) :
    ByteArray.toList.loop bs i read = read.reverse ++ bs.data.toList.drop i := by
  fun_induction ByteArray.toList.loop bs i read with
  | case1 i read hlt ih =>
    have hi : i < bs.data.toList.length := by simpa using hlt
    have hget : bs.get! i = bs.data.toList[i] := by
      show bs.data[i]! = _
      rw [getElem!_pos bs.data i hlt, Array.getElem_toList]
    rw [ih, List.drop_eq_getElem_cons hi, hget, List.reverse_cons, List.append_assoc]
    rfl
  | case2 i read hge =>
    have hi : bs.data.toList.length ≤ i := by simpa using Nat.le_of_not_lt hge
    rw [List.drop_eq_nil_of_le hi, List.append_nil]

theorem toList_eq (bs : ByteArray) : bs.toList = bs.data.toList := by
  rw [ByteArray.toList, toList_loop]
  rfl

theorem toList_toUTF8 (s : String) : s.toUTF8.toList = s.toList.flatMap String.utf8EncodeChar := by
  rw [toList_eq, String.toUTF8_eq_toByteArray, ← String.utf8Encode_toList, List.utf8Encode,
    List.toList_data_toByteArray]

theorem toUTF8_injective (h : s.toUTF8.toList = t.toUTF8.toList) : s = t := by
  rw [toList_eq, toList_eq, Array.toList_inj] at h
  exact String.toByteArray_inj.mp (ByteArray.ext h)

/-- The text of ASCII bytes. -/
def ofAscii (bytes : List UInt8) : String := String.ofList (bytes.map fun b => Char.ofNat b.toNat)

theorem utf8EncodeChar_ofNat (h : b.toNat < 128) :
    String.utf8EncodeChar (Char.ofNat b.toNat) = [b] := by
  have hn : (Char.ofNat b.toNat).toNat = b.toNat := by
    rw [Char.toNat_ofNat, if_pos (Or.inl (by omega))]
  obtain ⟨b', rest, hbytes, ⟨-, hb, rfl⟩ | ⟨hlarge, -⟩⟩ := utf8EncodeChar_eq (Char.ofNat b.toNat)
  · rw [hbytes, UInt8.toNat_inj.mp (hb.trans hn)]
  · omega

theorem toList_toUTF8_ofAscii (h : ∀ b ∈ bytes, b.toNat < 128) :
    (ofAscii bytes).toUTF8.toList = bytes := by
  rw [toList_toUTF8, ofAscii, String.toList_ofList, List.flatMap_map]
  induction bytes with
  | nil => rfl
  | cons b rest ih =>
    obtain ⟨hb, hrest⟩ := List.forall_mem_cons.mp h
    rw [List.flatMap_cons, utf8EncodeChar_ofNat hb, ih hrest]
    rfl

/-! ## Blanks around a text -/

/-- Trimming takes nothing away but blanks. -/
theorem exists_trim (s : String) : ∃ lead trail, isBlankText lead = true ∧
    isBlankText trail = true ∧ s = lead ++ trim s ++ trail := by
  have hfront := List.takeWhile_append_dropWhile (p := isBlank) (l := s.toList)
  have hback := List.takeWhile_append_dropWhile (p := isBlank)
    (l := (s.toList.dropWhile isBlank).reverse)
  refine ⟨String.ofList (s.toList.takeWhile isBlank),
    String.ofList ((s.toList.dropWhile isBlank).reverse.takeWhile isBlank).reverse, ?_, ?_, ?_⟩
  · rw [isBlankText, String.toList_ofList, List.all_eq_true]
    exact fun c hc => List.mem_takeWhile_imp hc
  · rw [isBlankText, String.toList_ofList, List.all_eq_true]
    exact fun c hc => List.mem_takeWhile_imp (List.mem_reverse.mp hc)
  · refine String.ext ?_
    rw [String.toList_append, String.toList_append, trim, String.toList_ofList,
      String.toList_ofList, String.toList_ofList, List.append_assoc, ← List.reverse_append, hback,
      List.reverse_reverse, hfront]

theorem dropWhile_isBlank {cs : List Char} (h : ∀ c ∈ cs, isBlank c = false) :
    cs.dropWhile isBlank = cs := by
  rw [List.dropWhile_eq_self_iff]
  intro hpos
  rw [h _ (List.getElem_mem hpos)]
  decide

/-- A text without blanks is what is left of it when it stands between blanks. -/
theorem trim_append {lead trail : String} (ht : ∀ c ∈ t.toList, isBlank c = false)
    (hlead : isBlankText lead = true) (htrail : isBlankText trail = true) :
    trim (lead ++ t ++ trail) = t := by
  rw [isBlankText, List.all_eq_true] at hlead htrail
  have hrev : ∀ c ∈ t.toList.reverse, isBlank c = false := fun c hc => ht c (List.mem_reverse.mp hc)
  have htrail' : ∀ c ∈ trail.toList.reverse, isBlank c = true :=
    fun c hc => htrail c (List.mem_reverse.mp hc)
  rw [trim, String.toList_append, String.toList_append, List.append_assoc,
    List.dropWhile_append_of_pos hlead]
  by_cases hempty : t.toList = []
  · rw [hempty, List.nil_append, List.dropWhile_eq_nil_iff.mpr htrail]
    exact String.ext (by rw [hempty]; rfl)
  · obtain ⟨c, rest, hcons⟩ := List.exists_cons_of_ne_nil hempty
    have hfront : (t.toList ++ trail.toList).dropWhile isBlank = t.toList ++ trail.toList := by
      rw [hcons, List.cons_append, List.dropWhile_cons_of_neg]
      rw [ht c (by rw [hcons]; exact List.mem_cons_self)]
      decide
    rw [hfront, List.reverse_append, List.dropWhile_append_of_pos htrail', dropWhile_isBlank hrev,
      List.reverse_reverse, String.ofList_toList]

end Text

/-! ## Base64 texts -/

namespace Base64

/-- The written form of bytes as a text. -/
def text (bytes : List UInt8) : String := ofAscii (encode bytes)

theorem symbolByte_plain : ∀ x : Symbol,
    (symbolByte x).toNat < 128 ∧ isBlank (Char.ofNat (symbolByte x).toNat) = false := by decide

theorem encode_plain (hb : b ∈ encode bytes) :
    b.toNat < 128 ∧ isBlank (Char.ofNat b.toNat) = false := by
  rw [encode_eq, spell, List.mem_append] at hb
  rcases hb with hb | hb
  · obtain ⟨x, -, rfl⟩ := List.mem_map.mp hb
    exact symbolByte_plain x
  · rw [List.eq_of_mem_replicate hb]
    decide

theorem text_plain (bytes : List UInt8) : ∀ c ∈ (text bytes).toList, isBlank c = false := by
  intro c hc
  rw [text, ofAscii, String.toList_ofList] at hc
  obtain ⟨b, hb, rfl⟩ := List.mem_map.mp hc
  exact (encode_plain hb).2

/-- A text is read exactly if it is the written form. -/
theorem decode_toUTF8_eq_ok_iff : decode s.toUTF8.toList = .ok key ↔ s = text key := by
  have htext : (text key).toUTF8.toList = encode key :=
    toList_toUTF8_ofAscii fun b hb => (encode_plain hb).1
  rw [decode_eq_ok_iff, ← htext]
  constructor
  · exact toUTF8_injective
  · rintro rfl
    rfl

end Base64

/-! ## Bech32 texts -/

namespace Bech32

/-- The text is written for the words, in either case: under some human-readable part and with
either checksum. -/
def Writes (ws : List Word) (text : String) : Prop :=
  OneCase text ∧ ∃ v hrp, encodeAs v hrp ws = .ok (asciiLower text)

/-- The words of a text are those for which it is written. -/
theorem exists_decode_iff : (∃ d, decode a = .ok d ∧ d.words = ws) ↔ Writes ws a := by
  constructor
  · rintro ⟨d, hd, rfl⟩
    obtain ⟨hone, hhrp, hcase, hlower⟩ := decode_eq_ok_iff_written.mp hd
    refine ⟨hone, d.variant, d.hrp, encodeAs_eq_ok_iff.mpr ⟨hhrp, ?_⟩⟩
    rw [hlower, asciiLower_of_noUpper hcase]
  · rintro ⟨hone, v, hrp, henc⟩
    obtain ⟨hhrp, hlower⟩ := encodeAs_eq_ok_iff.mp henc
    exact ⟨⟨asciiLower hrp, ws, v⟩, decode_eq_ok_iff_written.mpr
      ⟨hone, hhrp.asciiLower, noUpper_asciiLower hrp, hlower⟩, rfl⟩

/-- What is written under a human-readable part is written for its words. -/
theorem Writes.of_encodeAs {v : Variant} {hrp : String} (h : encodeAs v hrp ws = .ok a) :
    Writes ws a := by
  obtain ⟨-, rfl⟩ := encodeAs_eq_ok_iff.mp h
  have hcase := noUpper_written (noUpper_asciiLower hrp) v ws
  exact ⟨Or.inl hcase, v, hrp, by rw [h, asciiLower_of_noUpper hcase]⟩

end Bech32

/-! ## Hexadecimal digits -/

namespace Hex

theorem upperDigit_mem (n : Nat) : upperDigit n ∈ "0123456789ABCDEF".toList := by
  rcases Nat.lt_or_ge n 16 with hn | hn
  · have h : ∀ n < 16, upperDigit n ∈ "0123456789ABCDEF".toList := by decide
    exact h n hn
  · have hlen : "0123456789ABCDEF".toList.length ≤ n := hn
    have hd : upperDigit n = '0' := by
      rw [upperDigit, List.getD_eq_getElem?_getD, List.getElem?_eq_none hlen, Option.getD_none]
    rw [hd]
    decide

theorem encodeUpper_digits (bytes : List UInt8) :
    (encodeUpper bytes).length = 2 * bytes.length ∧
      ∀ c ∈ (encodeUpper bytes).toList, c ∈ "0123456789ABCDEF".toList := by
  have hlist : (encodeUpper bytes).toList =
      bytes.flatMap fun b => [upperDigit (b.toNat / 16), upperDigit (b.toNat % 16)] := by
    simp [encodeUpper]
  constructor
  · rw [← String.length_toList, hlist]
    simp [Nat.mul_comm]
  · intro c hc
    rw [hlist] at hc
    obtain ⟨b, -, hc⟩ := List.mem_flatMap.mp hc
    rcases List.mem_cons.mp hc with rfl | hc
    · exact upperDigit_mem _
    · rw [List.mem_singleton.mp hc]
      exact upperDigit_mem _

end Hex

namespace Address

/-! ## Keys -/

/-- The spellings of key bytes. -/
inductive Spells (key : List UInt8) : ConsensusKey → Prop
  /-- Base64, with blanks around it. -/
  | base64 {lead trail : String} (hlead : isBlankText lead = true)
      (htrail : isBlankText trail = true) : Spells key (.base64 (lead ++ Base64.text key ++ trail))
  /-- Bech32 behind the type prefix. -/
  | typed {text : String} (h : Writes (ofBytes (typePrefix ++ key)) text) : Spells key (.bech32 text)
  /-- Bech32 without the prefix, which the key must not begin with. -/
  | bare {text : String} (hkey : ¬ typePrefix <+: key) (h : Writes (ofBytes key) text) :
      Spells key (.bech32 text)

theorem exists_decode_iff :
    (∃ hrp, decode a = .ok (hrp, bytes)) ↔ Writes (ofBytes bytes) a := by
  rw [← Bech32.exists_decode_iff]
  constructor
  · rintro ⟨hrp, h⟩
    obtain ⟨d, hd, -, hwords⟩ := decode_eq_ok_iff.mp h
    exact ⟨d, hd, hwords⟩
  · rintro ⟨d, hd, hwords⟩
    exact ⟨d.hrp, decode_eq_ok_iff.mpr ⟨d, hd, rfl, hwords⟩⟩

/-- The bytes of which a key is left without the type prefix. -/
theorem strip_eq_iff :
    (if typePrefix.isPrefixOf bytes then bytes.drop typePrefix.length else bytes) = key ↔
      bytes = typePrefix ++ key ∨ bytes = key ∧ ¬ typePrefix <+: key := by
  by_cases htyped : typePrefix <+: bytes
  · rw [if_pos (List.isPrefixOf_iff_prefix.mpr htyped)]
    obtain ⟨rest, rfl⟩ := htyped
    rw [List.drop_left]
    constructor
    · rintro rfl
      exact Or.inl rfl
    · rintro (h | ⟨h, hno⟩)
      · exact List.append_cancel_left h
      · exact absurd ⟨rest, h⟩ hno
  · rw [if_neg (mt List.isPrefixOf_iff_prefix.mp htyped)]
    constructor
    · rintro rfl
      exact Or.inr ⟨rfl, htyped⟩
    · rintro (rfl | ⟨h, -⟩)
      · exact absurd (List.prefix_append _ _) htyped
      · exact h

/-- The bytes of a key are those that it spells. -/
theorem keyBytes_eq_ok_iff : keyBytes k = .ok key ↔ Spells key k := by
  cases k with
  | base64 text =>
    have hread : keyBytes (.base64 text) = .ok key ↔ trim text = Base64.text key := by
      rw [← Base64.decode_toUTF8_eq_ok_iff, keyBytes]
      cases Base64.decode (trim text).toUTF8.toList <;> simp [Except.mapError]
    rw [hread]
    constructor
    · intro h
      obtain ⟨lead, trail, hlead, htrail, htext⟩ := exists_trim text
      rw [htext, h]
      exact .base64 hlead htrail
    · rintro (⟨hlead, htrail⟩ | -)
      exact trim_append (Base64.text_plain key) hlead htrail
  | bech32 text =>
    have hread : keyBytes (.bech32 text) = .ok key ↔
        ∃ hrp bytes, decode text = .ok (hrp, bytes) ∧
          (bytes = typePrefix ++ key ∨ bytes = key ∧ ¬ typePrefix <+: key) := by
      simp only [← strip_eq_iff, keyBytes]
      rcases decode text with e | ⟨hrp, bytes⟩ <;> simp [Except.map]
    rw [hread]
    constructor
    · rintro ⟨hrp, bytes, hdecode, rfl | ⟨rfl, hno⟩⟩
      · exact .typed (exists_decode_iff.mp ⟨hrp, hdecode⟩)
      · exact .bare hno (exists_decode_iff.mp ⟨hrp, hdecode⟩)
    · rintro (- | h | ⟨hno, h⟩)
      · obtain ⟨hrp, hdecode⟩ := exists_decode_iff.mpr h
        exact ⟨hrp, _, hdecode, Or.inl rfl⟩
      · obtain ⟨hrp, hdecode⟩ := exists_decode_iff.mpr h
        exact ⟨hrp, _, hdecode, Or.inr ⟨rfl, hno⟩⟩

theorem consensus_eq_ok_iff_keyBytes :
    consensus k = .ok address ↔
      ∃ key, keyBytes k = .ok key ∧ key.length = 32 ∧ ofKeyBytes key = address := by
  rw [consensus]
  cases hread : keyBytes k with
  | error e => simp [bind, Except.bind]
  | ok bytes =>
    by_cases hsize : bytes.length = 32
    · simp [bind, Except.bind, pure, Except.pure, keySize, hsize]
    · simp [bind, Except.bind, keySize, hsize]

/-- The consensus address of a key is that of the 32 bytes that it spells. -/
theorem consensus_eq_ok_iff :
    consensus k = .ok address ↔
      ∃ key, key.length = 32 ∧ Spells key k ∧ ofKeyBytes key = address := by
  rw [consensus_eq_ok_iff_keyBytes]
  constructor
  · rintro ⟨key, hread, hlength, haddress⟩
    exact ⟨key, hlength, keyBytes_eq_ok_iff.mp hread, haddress⟩
  · rintro ⟨key, hlength, hspells, haddress⟩
    exact ⟨key, keyBytes_eq_ok_iff.mpr hspells, hlength, haddress⟩

theorem ofKeyBytes_digits (key : List UInt8) :
    (ofKeyBytes key).length = 40 ∧
      ∀ c ∈ (ofKeyBytes key).toList, c ∈ "0123456789ABCDEF".toList := by
  obtain ⟨hlength, hdigits⟩ := Hex.encodeUpper_digits ((Sha256.digest key).take 20)
  refine ⟨?_, hdigits⟩
  rw [ofKeyBytes, hlength, List.length_take, Sha256.length_digest]
  rfl

/-- Whatever is no spelling of 32 bytes is an invalid address. -/
theorem consensus_of_not_spells (h : ∀ key : List UInt8, key.length = 32 → ¬ Spells key k) :
    ∃ what, (consensus k).mapError Error.toFailure = .error (.invalidAddress what) := by
  cases hread : consensus k with
  | error e => exact ⟨e.message, rfl⟩
  | ok address =>
    obtain ⟨key, hlength, hspells, -⟩ := consensus_eq_ok_iff.mp hread
    exact absurd hspells (h key hlength)

/-- Behind the prefix only 27 bytes are left of a key that begins with it. -/
theorem not_spells_of_begins {text : String} (hkey : key.length = 32) (hbegins : typePrefix <+: key)
    (h : Writes (ofBytes key) text) (other : List UInt8) (hother : other.length = 32) :
    ¬ Spells other (.bech32 text) := by
  intro hspells
  obtain ⟨rest, rfl⟩ := hbegins
  have hrest : Spells rest (.bech32 text) := .typed h
  rw [← keyBytes_eq_ok_iff] at hspells hrest
  rw [hrest] at hspells
  cases hspells
  rw [List.length_append, hother] at hkey
  have hfive : typePrefix.length = 5 := rfl
  omega

/-- Every spelling of a 32-byte key gives the upper-case digits of the first 20 bytes of its digest:
Base64 with any blanks around it, and Bech32 with either checksum under any human-readable part,
behind the type prefix or, if the key does not begin with this prefix itself, without it. Whatever
is no spelling of 32 bytes is an invalid address. -/
theorem consensus_spellings :
    (∀ key : List UInt8, key.length = 32 → ∃ address,
      address = Hex.encodeUpper ((Sha256.digest key).take 20) ∧ address.length = 40 ∧
        (∀ c ∈ address.toList, c ∈ "0123456789ABCDEF".toList) ∧
        (∀ lead trail, isBlankText lead = true → isBlankText trail = true →
          consensus (.base64 (lead ++ Base64.text key ++ trail)) = .ok address) ∧
        ∀ (v : Variant) (hrp : String), IsHrp hrp → ∃ typed bare,
          encodeAs v hrp (ofBytes (typePrefix ++ key)) = .ok typed ∧
          encodeAs v hrp (ofBytes key) = .ok bare ∧
          consensus (.bech32 typed) = .ok address ∧
          (¬ typePrefix <+: key → consensus (.bech32 bare) = .ok address) ∧
          (typePrefix <+: key → ∃ what, (consensus (.bech32 bare)).mapError Error.toFailure =
            .error (.invalidAddress what))) ∧
    ∀ k,
      (∃ key, key.length = 32 ∧ Spells key k ∧
        consensus k = .ok (Hex.encodeUpper ((Sha256.digest key).take 20))) ∨
      (∀ key, key.length = 32 → ¬ Spells key k) ∧
        ∃ what, (consensus k).mapError Error.toFailure = .error (.invalidAddress what) := by
  constructor
  · intro key hlength
    have hspelled : ∀ {k}, Spells key k → consensus k = .ok (ofKeyBytes key) :=
      fun h => consensus_eq_ok_iff.mpr ⟨key, hlength, h, rfl⟩
    obtain ⟨hforty, hdigits⟩ := ofKeyBytes_digits key
    refine ⟨ofKeyBytes key, rfl, hforty, hdigits, ?_, ?_⟩
    · intro lead trail hlead htrail
      exact hspelled (.base64 hlead htrail)
    · intro v hrp hhrp
      have hencode : ∀ ws, encodeAs v hrp ws = .ok (written v (asciiLower hrp) ws) :=
        fun ws => encodeAs_eq_ok_iff.mpr ⟨hhrp, rfl⟩
      refine ⟨_, _, hencode _, hencode _, hspelled (.typed (.of_encodeAs (hencode _))), ?_, ?_⟩
      · intro hkey
        exact hspelled (.bare hkey (.of_encodeAs (hencode _)))
      · intro hkey
        exact consensus_of_not_spells
          (not_spells_of_begins hlength hkey (.of_encodeAs (hencode _)))
  · intro k
    by_cases hspells : ∃ key, key.length = 32 ∧ Spells key k
    · obtain ⟨key, hlength, hspells⟩ := hspells
      exact Or.inl ⟨key, hlength, hspells, consensus_eq_ok_iff.mpr ⟨key, hlength, hspells, rfl⟩⟩
    · have hnone : ∀ key : List UInt8, key.length = 32 → ¬ Spells key k :=
        fun key hlength h => hspells ⟨key, hlength, h⟩
      exact Or.inr ⟨hnone, consensus_of_not_spells hnone⟩

/-- One key in its spellings. -/
theorem consensus_spellings_of_counting :
    let key : List UInt8 := (List.range 32).map fun i => UInt8.ofNat (i + 1)
    let typed :=
      "cosmosvalconspub1zcjduepqqypqxpq9qcrsszg2pvxq6rs0zqg3yyc5z5tpwxqergd3c8g7rusqu92atf"
    key.length = 32 ∧
      encodeAs .bech32 "cosmosvalconspub" (ofBytes (typePrefix ++ key)) = .ok typed ∧
      consensus (.bech32 typed) = .ok "AE216C2EF5247A3782C135EFA279A3E4CDC61094" ∧
      consensus (.base64 (" " ++ "AQIDBAUGBwgJCgsMDQ4PEBESExQVFhcYGRobHB0eHyA=" ++ "\n")) =
        .ok "AE216C2EF5247A3782C135EFA279A3E4CDC61094" := by
  intro key typed
  have hlength : key.length = 32 := by decide
  have hdigest : Hex.encodeUpper ((Sha256.digest key).take 20) =
      "AE216C2EF5247A3782C135EFA279A3E4CDC61094" := by decide +kernel
  have htext : Base64.text key = "AQIDBAUGBwgJCgsMDQ4PEBESExQVFhcYGRobHB0eHyA=" := by
    decide +kernel
  have henc : encodeAs .bech32 "cosmosvalconspub" (ofBytes (typePrefix ++ key)) = .ok typed := by
    decide +kernel
  obtain ⟨address, haddress, -, -, hbase, hbech⟩ := consensus_spellings.1 key hlength
  rw [hdigest] at haddress
  obtain ⟨typed', -, htyped, -, hfirst, -⟩ :=
    hbech .bech32 "cosmosvalconspub" (encodeAs_eq_ok_iff.mp henc).1
  rw [henc] at htyped
  cases htyped
  refine ⟨hlength, henc, by rw [hfirst, haddress], ?_⟩
  rw [← htext, hbase " " "\n" (by decide) (by decide), haddress]

end Address

end Liveness
