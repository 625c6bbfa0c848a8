import Mathlib.Tactic.SplitIfs
import Admission.Proofs.OffsetStore

/-!
# Role cache entries as JSON text

A role cache on the key-value server keeps each entry as JSON text. This module shows that the
text reads back as the entry it was written from (`RoleEntry.decode_encode`), as long as the
entry's texts are UTF-8: a stray byte is written as U+FFFD and cannot come back.

The reading is taken apart along the writing:

* a string is read back from its quoted form, escapes included (`scanText_quote`);
* an integer is read back from its decimal digits (`scanNumber_toString`,
  `Reader.int64?_toString`);
* an array and an object are read back item by item, each item stopping where a separator or
  a closing bracket follows it (`ScansTo.array`, `ScansTo.object`).
-/

namespace Admission.Text.Stray

theorem isWellFormed_iff (s : String) :
    isWellFormed s = true ↔ ∀ c ∈ s.toList, isStray c = false := by
  simp [isWellFormed, String.any, String.contains_bool_eq]

end Admission.Text.Stray

namespace Admission.Json

theorem hexDigit?_hexChar : ∀ n < 16, hexDigit? (hexChar n) = some n := by decide

theorem hex4?_unicodeEscape {n : Nat} (hn : n < 65536) :
    hex4? (hexChar (n / 4096 % 16)) (hexChar (n / 256 % 16)) (hexChar (n / 16 % 16))
      (hexChar (n % 16)) = some n := by
  simp only [hex4?, hexDigit?_hexChar _ (Nat.mod_lt _ (by decide))]
  simp only [Option.pure_def, Option.bind_eq_bind, Option.bind_some, Option.some.injEq]
  omega

/-- A `\u` escape reads as the code unit it spells. -/
theorem scanString_unicodeEscape (acc : List Nat) {n : Nat} (hn : n < 65536)
    (rest : List Char) : scanString acc (unicodeEscape n ++ rest) = scanString (n :: acc) rest := by
  simp [unicodeEscape, scanString, hex4?_unicodeEscape hn]

/-- A character that needs no escape reads as itself. -/
theorem scanString_plain (acc : List Nat) {c : Char} (h1 : c ≠ '"') (h2 : c ≠ '\\')
    (h3 : ¬c.toNat < 0x20) (rest : List Char) :
    scanString acc (c :: rest) = scanString (c.toNat :: acc) rest := by
  simp [scanString, h2, h3]

/-- Every character but a stray byte reads back from how it is written. -/
theorem scanString_escapeChar (acc : List Nat) {c : Char} (hc : Text.Stray.isStray c = false)
    (rest : List Char) :
    scanString acc (escapeChar c ++ rest) = scanString (c.toNat :: acc) rest := by
  unfold escapeChar
  split_ifs with h1 h2 h3 h4 h5 h6 h7 h8 h9
  case pos => rw [beq_iff_eq.mp h1]; rfl
  case pos => rw [beq_iff_eq.mp h2]; rfl
  case pos => exact absurd h3 (by simp [hc])
  case pos => rw [beq_iff_eq.mp h4]; rfl
  case pos => rw [beq_iff_eq.mp h5]; rfl
  case pos => rw [beq_iff_eq.mp h6]; rfl
  case pos => rw [beq_iff_eq.mp h7]; rfl
  case pos => rw [beq_iff_eq.mp h8]; rfl
  case pos =>
    apply scanString_unicodeEscape
    simp only [Bool.or_eq_true, beq_iff_eq, decide_eq_true_eq] at h9
    rcases h9 with ((((hlow | hlt) | hgt) | hamp) | hls) | hps
    · omega
    · subst hlt
      decide
    · subst hgt
      decide
    · subst hamp
      decide
    · omega
    · omega
  case neg =>
    simp only [Bool.or_eq_true, beq_iff_eq, decide_eq_true_eq, not_or] at h9
    exact scanString_plain acc (by simpa using h1) (by simpa using h2) h9.1.1.1.1.1 rest

/-- The escaped characters of a text, then the closing quote, read as the text's code units. -/
theorem scanString_escaped (cs : List Char) (hcs : ∀ c ∈ cs, Text.Stray.isStray c = false)
    (acc : List Nat) (rest : List Char) :
    scanString acc (cs.flatMap escapeChar ++ '"' :: rest) =
      some ((cs.map Char.toNat).reverse ++ acc, rest) := by
  induction cs generalizing acc with
  | nil => simp [scanString]
  | cons c cs ih =>
    rw [List.flatMap_cons, List.append_assoc,
      scanString_escapeChar acc (hcs c List.mem_cons_self),
      ih (fun d hd => hcs d (List.mem_cons_of_mem c hd))]
    simp

/-- A character's code is no surrogate and is at most U+10FFFF. -/
theorem toNat_valid (c : Char) : c.toNat < 0xD800 ∨ (0xDFFF < c.toNat ∧ c.toNat < 0x110000) := by
  have := c.valid
  simp only [UInt32.isValidChar, Nat.isValidChar] at this
  simp only [Char.toNat]
  omega

/-- The code units of characters pair back into the same characters: no character is a
surrogate. -/
theorem pairUnits_map_toNat (cs : List Char) : pairUnits (cs.map Char.toNat) = cs := by
  induction cs with
  | nil => simp [pairUnits]
  | cons c cs ih =>
    have hvalid := toNat_valid c
    have hcode : charOfCode c.toNat = c := by
      unfold charOfCode
      rw [if_neg (by omega), if_pos (by omega)]
      exact Char.ofNat_toNat c
    cases cs with
    | nil => simp [pairUnits, hcode]
    | cons d ds =>
      have hhigh : isHighSurrogate c.toNat = false := by
        simp only [isHighSurrogate, Bool.and_eq_false_iff, decide_eq_false_iff_not]
        omega
      simp only [List.map_cons] at ih ⊢
      rw [pairUnits, hhigh, Bool.false_and, if_neg (by decide), hcode, ih]

theorem toList_quote (s : String) :
    (quote s).toList = '"' :: (s.toList.flatMap escapeChar ++ ['"']) := by
  simp [quote]

/-- A quoted text reads back as the text, when it holds no stray byte. -/
theorem scanText_quote {s : String} (hs : Text.Stray.isWellFormed s = true) (rest : List Char) :
    scanText (s.toList.flatMap escapeChar ++ '"' :: rest) = some (s, rest) := by
  unfold scanText
  rw [scanString_escaped s.toList ((Text.Stray.isWellFormed_iff s).1 hs)]
  simp [pairUnits_map_toNat]

/-- Decimal digits never start with a minus sign. -/
theorem toDigits_cons_not_minus (k : Nat) : ∃ d ds, Nat.toDigits 10 k = d :: ds ∧ d ≠ '-' := by
  have hall := all_isDigit_toDigits k
  cases hds : Nat.toDigits 10 k with
  | nil => exact absurd hds Nat.toDigits_ne_nil
  | cons d ds =>
    refine ⟨d, ds, rfl, ?_⟩
    rintro rfl
    rw [hds] at hall
    have hminus : '-'.isDigit = false := by decide
    simp [hminus] at hall

/-- What may follow a value in a text: nothing, a comma, or a closing bracket. -/
def Closes (rest : List Char) : Prop :=
  rest = [] ∨ ∃ c r, rest = c :: r ∧ (c = ',' ∨ c = ']' ∨ c = '}')

theorem Closes.not_digit {rest : List Char} (h : Closes rest) :
    ∀ c r, rest = c :: r → c.isDigit = false := by
  rintro c r rfl
  rcases h with h | ⟨c', r', h, hc⟩
  · cases h
  · obtain ⟨rfl, rfl⟩ := List.cons.inj h
    rcases hc with rfl | rfl | rfl <;> decide

/-- A run of digits stops where the digits do. -/
theorem scanDigits_append (ds : List Char) (hds : ds.all Char.isDigit = true) {rest : List Char}
    (hrest : ∀ c r, rest = c :: r → c.isDigit = false) : scanDigits (ds ++ rest) = (ds, rest) := by
  induction ds with
  | nil =>
    cases rest with
    | nil => rfl
    | cons c r => simp [scanDigits, hrest c r rfl]
  | cons d ds ih =>
    simp only [List.all_cons, Bool.and_eq_true] at hds
    simp [scanDigits, hds.1, ih hds.2]

/-- The integer part of a number written in decimal is all of its digits. -/
theorem scanIntPart_toDigits (k : Nat) {rest : List Char} (hrest : Closes rest) :
    scanIntPart (Nat.toDigits 10 k ++ rest) = some (Nat.toDigits 10 k, rest) := by
  rcases Nat.eq_zero_or_pos k with rfl | hk
  · simp [scanIntPart]
  · obtain ⟨d, ds, hds, hd⟩ := toDigits_cons_of_pos hk
    have hall := all_isDigit_toDigits k
    rw [hds] at hall ⊢
    have hscan := scanDigits_append (d :: ds) hall hrest.not_digit
    simp only [List.cons_append] at hscan ⊢
    simp [scanIntPart, scanDigits1, hd, hscan]

theorem scanFraction_closes {rest : List Char} (h : Closes rest) :
    scanFraction rest = some ([], rest) := by
  rcases h with rfl | ⟨c, r, rfl, hc⟩
  · rfl
  · rcases hc with rfl | rfl | rfl <;> rfl

theorem scanExponent_closes {rest : List Char} (h : Closes rest) :
    scanExponent rest = some ([], rest) := by
  rcases h with rfl | ⟨c, r, rfl, hc⟩
  · rfl
  · rcases hc with rfl | rfl | rfl <;> rfl

/-- An integer written in decimal reads back as the same literal. -/
theorem scanNumber_toString (n : Int) {rest : List Char} (hrest : Closes rest) :
    scanNumber ((toString n).toList ++ rest) = some ((toString n).toList, rest) := by
  unfold scanNumber
  rcases Int.lt_or_le n 0 with hneg | hnonneg
  · rw [toList_toString_of_neg hneg]
    simp [scanIntPart_toDigits _ hrest, scanFraction_closes hrest, scanExponent_closes hrest]
  · rw [toList_toString_of_nonneg hnonneg]
    have hint := scanIntPart_toDigits n.toNat hrest
    obtain ⟨d, ds, hds, hminus⟩ := toDigits_cons_not_minus n.toNat
    rw [hds, List.cons_append] at hint
    rw [hds]
    simp [hminus, hint, scanFraction_closes hrest, scanExponent_closes hrest]

/-- Text whose first character starts a value: no blank, no closing bracket. -/
def Leads (cs : List Char) : Prop :=
  ∃ c r, cs = c :: r ∧ isBlank c = false ∧ c ≠ ']' ∧ c ≠ '}'

theorem skipBlank_cons {c : Char} (hc : isBlank c = false) (r : List Char) :
    skipBlank (c :: r) = c :: r := by
  rw [Json.skipBlank, hc]
  rfl

theorem Leads.append {cs : List Char} (h : Leads cs) (t : List Char) : Leads (cs ++ t) := by
  obtain ⟨c, r, rfl, h⟩ := h
  exact ⟨c, r ++ t, rfl, h⟩

/-- A value whose text reads back as itself, whatever may close it follows, for the scanner
that may still open `d` collections and bounds each one's items by `w`. Leaves read at any
depth; an array or an object reads one level deeper than its items. -/
structure ScansTo (d w : Nat) (j : Json) : Prop where
  leads : Leads (render j).toList
  scans : ∀ rest, Closes rest → scanValue d w ((render j).toList ++ rest) = some (j, rest)

theorem ScansTo.null (d w : Nat) : ScansTo d w .null where
  leads := ⟨'n', ['u', 'l', 'l'], by simp [render], by decide, by decide, by decide⟩
  scans rest _ := by simp [render, scanValue, Json.skipBlank, isBlank]

theorem ScansTo.string (d w : Nat) {s : String} (hs : Text.Stray.isWellFormed s = true) :
    ScansTo d w (.string s) := by
  refine ⟨⟨'"', _, by rw [render, toList_quote], by decide, by decide, by decide⟩, fun rest _ => ?_⟩
  rw [render, toList_quote, List.cons_append, List.append_assoc, List.singleton_append]
  simp [scanValue, Json.skipBlank, isBlank, scanText_quote hs]

/-- A minus sign or a digit is no blank and opens no collection, text or literal. -/
theorem numeric_ne {c : Char} (hc : c = '-' ∨ c.isDigit = true) :
    isBlank c = false ∧ c ≠ '{' ∧ c ≠ '[' ∧ c ≠ '"' ∧ c ≠ 't' ∧ c ≠ 'f' ∧ c ≠ 'n' ∧
      c ≠ ']' ∧ c ≠ '}' := by
  rcases hc with rfl | hd
  · decide
  · have hblank : isBlank c = false := by
      cases hb : isBlank c
      · rfl
      · simp only [isBlank, Bool.or_eq_true, beq_iff_eq] at hb
        rcases hb with ((rfl | rfl) | rfl) | rfl <;> revert hd <;> decide
    refine ⟨hblank, ?_, ?_, ?_, ?_, ?_, ?_, ?_, ?_⟩ <;> (rintro rfl; revert hd; decide)

/-- Text starting with a minus sign or a digit is read as a number. -/
theorem scanValue_numeric {c : Char} (hc : c = '-' ∨ c.isDigit = true) (d w : Nat)
    (r : List Char) :
    scanValue d w (c :: r) =
      (scanNumber (c :: r)).map fun (lit, rest) => (.number (String.ofList lit), rest) := by
  obtain ⟨hb, h1, h2, h3, h4, h5, h6, -, -⟩ := numeric_ne hc
  unfold scanValue
  rw [Json.skipBlank, if_neg (by simp [hb])]
  split
  next heq => exact absurd (List.cons.inj heq).1 h1
  next heq => exact absurd (List.cons.inj heq).1 h2
  next heq => exact absurd (List.cons.inj heq).1 h3
  next heq => exact absurd (List.cons.inj heq).1 h4
  next heq => exact absurd (List.cons.inj heq).1 h5
  next heq => exact absurd (List.cons.inj heq).1 h6
  next => rfl

/-- The first character of an integer's text: a minus sign or a digit. -/
theorem toString_int_cons (n : Int) :
    ∃ c r, (toString n).toList = c :: r ∧ (c = '-' ∨ c.isDigit = true) := by
  rcases Int.lt_or_le n 0 with hneg | hnonneg
  · exact ⟨'-', _, toList_toString_of_neg hneg, Or.inl rfl⟩
  · obtain ⟨d, ds, hds, -⟩ := toDigits_cons_not_minus n.toNat
    have hall := all_isDigit_toDigits n.toNat
    rw [hds] at hall
    refine ⟨d, ds, by rw [toList_toString_of_nonneg hnonneg, hds], Or.inr ?_⟩
    simp only [List.all_cons, Bool.and_eq_true] at hall
    exact hall.1

theorem ScansTo.int (d w : Nat) (n : Int) : ScansTo d w (Json.int n) := by
  obtain ⟨c, r, hcr, hc⟩ := toString_int_cons n
  obtain ⟨hb, -, -, -, -, -, -, hc1, hc2⟩ := numeric_ne hc
  refine ⟨⟨c, r, by rw [Json.int, render, hcr], hb, hc1, hc2⟩, fun rest hrest => ?_⟩
  have hnum := scanNumber_toString n hrest
  rw [hcr, List.cons_append] at hnum
  rw [Json.int, render, hcr, List.cons_append, scanValue_numeric hc, hnum, ← hcr]
  simp

/-- After `[`, text that starts a value opens an array with items. -/
theorem scanValue_lbracket {cs : List Char} (h : Leads cs) (d w : Nat) :
    scanValue (d + 1) w ('[' :: cs) =
      (scanItems (scanValue d w) w [] cs).map fun (xs, rest) => (.array xs, rest) := by
  obtain ⟨c, r, rfl, hb, hc, -⟩ := h
  rw [scanValue, skipBlank_cons (by decide)]
  simp only
  rw [skipBlank_cons hb]
  split
  next heq => exact absurd (List.cons.inj heq).1 hc
  next => rfl

/-- After `{`, text that starts a value opens an object with members. -/
theorem scanValue_lbrace {cs : List Char} (h : Leads cs) (d w : Nat) :
    scanValue (d + 1) w ('{' :: cs) =
      (scanMembers (scanValue d w) w [] cs).map fun (ms, rest) => (.object ms, rest) := by
  obtain ⟨c, r, rfl, hb, -, hc⟩ := h
  rw [scanValue, skipBlank_cons (by decide)]
  simp only
  rw [skipBlank_cons hb]
  split
  next heq => exact absurd (List.cons.inj heq).1 hc
  next => rfl

/-- The text of the items of an array starts with the text of the first. -/
theorem renderItems_cons (x : Json) (xs : List Json) :
    ∃ t, (renderItems (x :: xs)).toList = (render x).toList ++ t := by
  cases xs with
  | nil => exact ⟨[], by simp [renderItems]⟩
  | cons y ys => exact ⟨',' :: (renderItems (y :: ys)).toList, by simp [renderItems]⟩

/-- Items read one by one, each stopping at the comma or bracket after it. The fuel counts the
items still allowed. -/
theorem scanItems_renderItems {d w : Nat} :
    ∀ (xs : List Json), xs ≠ [] → (∀ x ∈ xs, ScansTo d w x) → ∀ fuel, xs.length ≤ fuel →
      ∀ (acc : List Json) (rest : List Char),
        scanItems (scanValue d w) fuel acc ((renderItems xs).toList ++ ']' :: rest) =
          some (acc.reverse ++ xs, rest)
  | [], hne, _, _, _, _, _ => absurd rfl hne
  | x :: xs, _, hxs, fuel + 1, hfuel, acc, rest => by
    have hx := hxs x List.mem_cons_self
    cases xs with
    | nil =>
      have hscan := hx.scans (']' :: rest) (Or.inr ⟨_, _, rfl, by simp⟩)
      simp [renderItems, scanItems, hscan, Json.skipBlank, isBlank]
    | cons y ys =>
      have hscan := hx.scans (',' :: ((renderItems (y :: ys)).toList ++ ']' :: rest))
        (Or.inr ⟨_, _, rfl, by simp⟩)
      have ih := scanItems_renderItems (y :: ys) (List.cons_ne_nil y ys)
        (fun z hz => hxs z (List.mem_cons_of_mem x hz)) fuel (by simpa using hfuel) (x :: acc) rest
      simp only [renderItems, String.toList_append, List.append_assoc]
      simp [scanItems, hscan, Json.skipBlank, isBlank, ih]
  | _ :: _, _, _, 0, hfuel, _, _ => absurd hfuel (by simp)

theorem ScansTo.array {d w : Nat} {xs : List Json} (hxs : ∀ x ∈ xs, ScansTo d w x)
    (hw : xs.length ≤ w) : ScansTo (d + 1) w (.array xs) := by
  refine ⟨⟨'[', (renderItems xs).toList ++ [']'], by simp [render], by decide, by decide, by decide⟩,
    fun rest _ => ?_⟩
  cases xs with
  | nil => simp [render, renderItems, scanValue, Json.skipBlank, isBlank]
  | cons x xs =>
    obtain ⟨t, ht⟩ := renderItems_cons x xs
    have hlead : Leads ((renderItems (x :: xs)).toList ++ ']' :: rest) := by
      rw [ht, List.append_assoc]
      exact (hxs x List.mem_cons_self).leads.append _
    simp only [render, String.toList_append, List.append_assoc]
    rw [show "[".toList = ['['] from rfl, show "]".toList = [']'] from rfl, List.singleton_append,
      List.singleton_append, scanValue_lbracket hlead,
      scanItems_renderItems _ (List.cons_ne_nil x xs) hxs w hw [] rest]
    simp

/-- The text of the members of an object starts with the quote of the first name. -/
theorem renderMembers_cons (k : String) (v : Json) (ms : List (String × Json)) :
    ∃ t, (renderMembers ((k, v) :: ms)).toList = '"' :: t := by
  cases ms <;> simp [renderMembers, toList_quote]

/-- Members read one by one: the quoted name, the colon, then the value, each stopping at the
comma or brace after it. The fuel counts the members still allowed. -/
theorem scanMembers_renderMembers {d w : Nat} :
    ∀ (ms : List (String × Json)), ms ≠ [] →
      (∀ k v, (k, v) ∈ ms → Text.Stray.isWellFormed k = true ∧ ScansTo d w v) →
      ∀ fuel, ms.length ≤ fuel → ∀ (acc : List (String × Json)) (rest : List Char),
        scanMembers (scanValue d w) fuel acc ((renderMembers ms).toList ++ '}' :: rest) =
          some (acc.reverse ++ ms, rest)
  | [], hne, _, _, _, _, _ => absurd rfl hne
  | (k, v) :: ms, _, hms, fuel + 1, hfuel, acc, rest => by
    obtain ⟨hk, hv⟩ := hms k v List.mem_cons_self
    cases ms with
    | nil =>
      have hscan := hv.scans ('}' :: rest) (Or.inr ⟨_, _, rfl, by simp⟩)
      simp only [renderMembers, String.toList_append, toList_quote, List.cons_append,
        List.append_assoc]
      simp [scanMembers, Json.skipBlank, isBlank, scanText_quote hk, hscan]
    | cons m ms =>
      have hscan := hv.scans (',' :: ((renderMembers (m :: ms)).toList ++ '}' :: rest))
        (Or.inr ⟨_, _, rfl, by simp⟩)
      have ih := scanMembers_renderMembers (m :: ms) (List.cons_ne_nil m ms)
        (fun k' v' hm => hms k' v' (List.mem_cons_of_mem _ hm)) fuel (by simpa using hfuel)
        ((k, v) :: acc) rest
      simp only [renderMembers, String.toList_append, toList_quote, List.cons_append,
        List.append_assoc]
      simp [scanMembers, Json.skipBlank, isBlank, scanText_quote hk, hscan, ih]
  | _ :: _, _, _, 0, hfuel, _, _ => absurd hfuel (by simp)

theorem ScansTo.object {d w : Nat} {ms : List (String × Json)}
    (hms : ∀ k v, (k, v) ∈ ms → Text.Stray.isWellFormed k = true ∧ ScansTo d w v)
    (hw : ms.length ≤ w) : ScansTo (d + 1) w (.object ms) := by
  refine ⟨⟨'{', (renderMembers ms).toList ++ ['}'], by simp [render], by decide, by decide,
    by decide⟩, fun rest _ => ?_⟩
  cases ms with
  | nil => simp [render, renderMembers, scanValue, Json.skipBlank, isBlank]
  | cons m ms =>
    obtain ⟨t, ht⟩ := renderMembers_cons m.1 m.2 ms
    have hlead : Leads ((renderMembers (m :: ms)).toList ++ '}' :: rest) := by
      rw [ht, List.cons_append]
      exact ⟨'"', _, rfl, by decide, by decide, by decide⟩
    simp only [render, String.toList_append, List.append_assoc]
    rw [show "\x7b".toList = ['\x7b'] from rfl, show "\x7d".toList = ['\x7d'] from rfl,
      List.singleton_append, List.singleton_append, scanValue_lbrace hlead,
      scanMembers_renderMembers _ (List.cons_ne_nil m ms) hms w hw [] rest]
    simp

/-- Each item of an array takes at least a comma: the text bounds the number of items. -/
theorem length_le_renderItems : ∀ xs : List Json, xs.length ≤ (renderItems xs).length + 1
  | [] => by simp
  | [_] => by simp
  | x :: y :: ys => by
    have := length_le_renderItems (y :: ys)
    simp only [renderItems, String.length_append, List.length_cons] at this ⊢
    have : (",".length) = 1 := rfl
    omega

end Admission.Json

namespace Admission.Reader

/-- A 64-bit integer written in decimal reads back as itself. -/
theorem int64?_toString (x : Int64) : int64? (toString x.toInt) = some x := by
  have hlo := x.le_toInt
  have hhi := x.toInt_lt
  have hback : Int64.ofInt x.toInt = x := Int64.ofInt_toInt x
  unfold int64?
  rcases Int.lt_or_le x.toInt 0 with hneg | hnonneg
  · have hne : (Nat.toDigits 10 (-x.toInt).toNat).isEmpty = false :=
      List.isEmpty_eq_false_iff.mpr Nat.toDigits_ne_nil
    have hval : -(((-x.toInt).toNat : Nat) : Int) = x.toInt := by omega
    rw [toList_toString_of_neg hneg]
    simp only [foldl_toDigits, hne, all_isDigit_toDigits, Bool.not_true, Bool.or_false,
      Bool.false_eq_true, if_false, if_true, hval]
    rw [if_pos (by omega), hback]
  · obtain ⟨d, ds, hds, hminus⟩ := Json.toDigits_cons_not_minus x.toInt.toNat
    have hne : (Nat.toDigits 10 x.toInt.toNat).isEmpty = false :=
      List.isEmpty_eq_false_iff.mpr Nat.toDigits_ne_nil
    have hval : ((x.toInt.toNat : Nat) : Int) = x.toInt := Int.toNat_of_nonneg hnonneg
    have hall := all_isDigit_toDigits x.toInt.toNat
    have hfold := foldl_toDigits x.toInt.toNat
    rw [hds] at hall hfold
    rw [toList_toString_of_nonneg hnonneg, hds]
    have hzero : '0'.toNat = 48 := rfl
    simp only [List.foldl_cons, Nat.zero_mul, Nat.zero_add, hzero] at hfold
    simp [hminus, hall]
    rw [hfold, hval]
    exact ⟨by omega, hback⟩

theorem int64_int (x old : Int64) : int64 (Json.int x.toInt) old = some x :=
  int64?_toString x

theorem option_of_ne_null {α : Type} (r : Reader α) (zero : α) {j : Json} (hj : j ≠ .null)
    (old : Option α) : option r zero j old = (r j (old.getD zero)).map some := by
  unfold option
  split
  · exact absurd rfl hj
  · rfl

/-- Items written by `f` read back one by one, whatever items were there before, when `r`
reads back what `f` writes. -/
theorem itemsOf_map {α : Type} {r : Reader α} {z : α} {f : α → Json}
    (h : ∀ x old, r (f x) old = some x) :
    ∀ (xs old : List α), itemsOf r z (xs.map f) old = some xs
  | [], _ => rfl
  | x :: xs, old => by simp [itemsOf, h, itemsOf_map h xs]

end Admission.Reader

namespace Admission

theorem Limit.reader_toJson (l old : Limit) : Limit.reader l.toJson old = some l := by
  obtain ⟨router, ⟨name⟩, value⟩ := l
  have hvalue : Reader.option Reader.int64 0 (Json.intOpt (value.map Int64.toInt)) old.value =
      some value := by
    cases value with
    | none => rfl
    | some v =>
      rw [Option.map_some, Json.intOpt, Reader.option_of_ne_null _ _ (by simp [Json.int]),
        Reader.int64_int]
      rfl
  simp [Limit.reader, Limit.toJson, Reader.object, Reader.applyMembers, Reader.select,
    Reader.field, Reader.int64_int, Reader.string, hvalue]

end Admission

namespace Admission.Directory

theorem RoleEntry.reader_toJson (e old : RoleEntry) : RoleEntry.reader e.toJson old = some e := by
  have hlimits := Reader.itemsOf_map (z := Limit.zero) Limit.reader_toJson
  have hpermissions := Reader.itemsOf_map (r := Reader.string) (z := "") (f := Json.string)
    (fun _ _ => rfl)
  obtain ⟨limits, permissions⟩ := e
  cases limits <;> cases permissions <;>
    simp [RoleEntry.reader, RoleEntry.toJson, Reader.object, Reader.applyMembers, Reader.select,
      Reader.field, Reader.list, Json.strings, hlimits, hpermissions]

/-- Whether every text of an entry is UTF-8: the type names of its limits and its
permissions. -/
def RoleEntry.textsWellFormed (e : RoleEntry) : Bool :=
  (e.limits.getD []).all (fun l => Text.Stray.isWellFormed l.type.name) &&
    (e.permissions.getD []).all Text.Stray.isWellFormed

/-- The member names of entries and limits are UTF-8. -/
theorem isWellFormed_memberName {k : String}
    (hk : k ∈ ["router", "type", "value", "limits", "permissions"]) :
    Text.Stray.isWellFormed k = true := by
  simp only [List.mem_cons, List.not_mem_nil, or_false] at hk
  rcases hk with rfl | rfl | rfl | rfl | rfl <;>
    (simp [Text.Stray.isWellFormed_iff]; decide)

theorem Limit.scansTo_toJson {l : Limit} (hl : Text.Stray.isWellFormed l.type.name = true)
    (d : Nat) {w : Nat} (hw : 3 ≤ w) : Json.ScansTo (d + 1) w l.toJson := by
  apply Json.ScansTo.object _ hw
  simp only [List.mem_cons, Prod.mk.injEq, List.not_mem_nil, or_false]
  rintro k v (⟨rfl, rfl⟩ | ⟨rfl, rfl⟩ | ⟨rfl, rfl⟩)
  · exact ⟨isWellFormed_memberName (by simp), Json.ScansTo.int d w _⟩
  · exact ⟨isWellFormed_memberName (by simp), Json.ScansTo.string d w hl⟩
  · refine ⟨isWellFormed_memberName (by simp), ?_⟩
    cases l.value with
    | none => exact Json.ScansTo.null d w
    | some v => exact Json.ScansTo.int d w _

/-- An entry's text reads back as its JSON value, three collections deep, when each of its
lists fits the item bound. -/
theorem RoleEntry.scansTo_toJson {e : RoleEntry} (he : e.textsWellFormed = true) (d : Nat)
    {w : Nat} (hw : 3 ≤ w) (hlimits : (e.limits.getD []).length ≤ w)
    (hpermissions : (e.permissions.getD []).length ≤ w) :
    Json.ScansTo (d + 3) w e.toJson := by
  simp only [textsWellFormed, Bool.and_eq_true, List.all_eq_true] at he
  apply Json.ScansTo.object _ (by simp; omega)
  simp only [List.mem_cons, Prod.mk.injEq, List.not_mem_nil, or_false]
  rintro k v (⟨rfl, rfl⟩ | ⟨rfl, rfl⟩)
  · refine ⟨isWellFormed_memberName (by simp), ?_⟩
    cases hls : e.limits with
    | none => exact Json.ScansTo.null _ w
    | some ls =>
      rw [hls] at he hlimits
      refine Json.ScansTo.array ?_ (by simpa using hlimits)
      simp only [List.mem_map]
      rintro _ ⟨l, hl, rfl⟩
      exact Limit.scansTo_toJson (he.1 l hl) d hw
  · refine ⟨isWellFormed_memberName (by simp), ?_⟩
    cases hps : e.permissions with
    | none => exact Json.ScansTo.null _ w
    | some ps =>
      rw [hps] at he hpermissions
      refine Json.ScansTo.array ?_ (by simpa [Json.strings] using hpermissions)
      simp only [List.mem_map]
      rintro _ ⟨p, hp, rfl⟩
      exact Json.ScansTo.string _ w (he.2 p hp)

/-- The text of an entry is longer than each of its lists. -/
theorem RoleEntry.length_lt_render (e : RoleEntry) :
    (e.limits.getD []).length < (Json.render e.toJson).length ∧
      (e.permissions.getD []).length < (Json.render e.toJson).length ∧
      3 ≤ (Json.render e.toJson).length := by
  obtain ⟨limits, permissions⟩ := e
  have hls := Json.length_le_renderItems ((limits.getD []).map Limit.toJson)
  have hps := Json.length_le_renderItems ((permissions.getD []).map Json.string)
  have hopen : "\x7b".length = 1 := rfl
  have hclose : "\x7d".length = 1 := rfl
  have hcolon : ":".length = 1 := rfl
  cases limits <;> cases permissions <;>
    simp only [RoleEntry.toJson, Json.strings, Json.render, Json.renderMembers,
      String.length_append, Option.getD_some, Option.getD_none, List.length_map,
      List.length_nil] at hls hps ⊢ <;>
    omega

/-- An entry written as JSON text reads back as the same entry, as long as its texts are UTF-8:
`null` lists stay absent, an empty list stays empty, and an unlimited limit stays unlimited. -/
theorem RoleEntry.decode_encode (e : RoleEntry) (he : e.textsWellFormed = true) :
    (Json.parse (Json.render e.toJson)).bind (RoleEntry.reader · RoleEntry.zero) = some e := by
  obtain ⟨hlimits, hpermissions, hthree⟩ := e.length_lt_render
  have hscan := (e.scansTo_toJson he 9997 (w := (Json.render e.toJson).length + 1) (by omega)
    (by omega) (by omega)).scans [] (Or.inl rfl)
  rw [List.append_nil] at hscan
  rw [Json.parse, Json.parsePrefix, show Json.maxNesting = 9997 + 3 from rfl, hscan]
  simp [Json.skipBlank, RoleEntry.reader_toJson]

end Admission.Directory
