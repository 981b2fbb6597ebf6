import CanvasExport.Proofs.FunctionalColor
import Mathlib.Data.Set.List
/-!
# The hexadecimal notation of a color

Behind `#` there are three, four, six or eight hexadecimal digits, of which three or four stand for two
each (`Rgba.expandedDigits`).  The first six of them are the color in the form `#rrggbb`, and the others,
if there are any, tell whether something behind the color is seen (`Rgba.parse?_hex`).  The form `#rrggbb`
of any color is read back as its channels, and so is the functional notation of the channels.
-/

namespace CanvasExport.Rgba

-- powers of naturals are the core library's
attribute [local instance (2000)] instPowNat

open Text

/-! ## Digits -/

/-- The digit with a value, in lower case. -/
def hexChar (d : Fin 16) : Char := Nat.digitChar d.val

/-- The hexadecimal digits in lower case. -/
def hexAlphabet : List Char := "0123456789abcdef".toList

theorem mem_hexAlphabet_iff {c : Char} : c ∈ hexAlphabet ↔ c ∈ Set.range hexChar := by
  have halphabet : hexAlphabet = (List.finRange 16).map hexChar := by decide
  simp [halphabet]

theorem toNat_hexChar : ∀ d : Fin 16, (hexChar d).toNat = if d.val < 10 then 48 + d.val else 87 + d.val := by
  decide

/-- A digit is read as its value. -/
theorem hexDigit?_hexChar : ∀ d : Fin 16, hexDigit? (hexChar d) = some d := by decide

/-- In lower case there is one digit for each value. -/
theorem eq_hexChar_of_hexDigit? {c : Char} {d : Fin 16} (hlower : c.toLower = c)
    (h : hexDigit? c = some d) : c = hexChar d := by
  have hcase : ¬ (65 ≤ c.toNat ∧ c.toNat ≤ 90) := by
    intro hupper
    have hshift := toNat_toLower c
    rw [hlower, if_pos hupper] at hshift
    omega
  apply Char.toNat_inj.1
  rw [toNat_hexChar]
  unfold hexDigit? at h
  dsimp only at h
  split at h
  · obtain rfl := Option.some_inj.1 h
    dsimp only
    split_ifs <;> omega
  split at h
  · obtain rfl := Option.some_inj.1 h
    dsimp only
    split_ifs <;> omega
  split at h
  · omega
  · cases h

/-- Digits are read as their values. -/
theorem mapM_hexDigit?_map_hexChar (ds : List (Fin 16)) :
    (ds.map hexChar).mapM hexDigit? = some ds := by
  rw [mapM_hexDigit?_eq_some_iff, AreHexDigits, List.forall₂_map_left_iff, List.forall₂_same]
  exact fun d _ => hexDigit?_hexChar d

/-- In lower case the digits are those of their values. -/
theorem mapM_hexDigit?_eq_some_iff_of_lower {cs : List Char} (hlower : ∀ c ∈ cs, c.toLower = c)
    {ds : List (Fin 16)} : cs.mapM hexDigit? = some ds ↔ cs = ds.map hexChar := by
  constructor
  · intro h
    rw [mapM_hexDigit?_eq_some_iff] at h
    induction h with
    | nil => rfl
    | @cons c d cs ds hc _ ih =>
        rw [List.map_cons, ← ih fun b hb => hlower b (List.mem_cons_of_mem c hb),
          ← eq_hexChar_of_hexDigit? (hlower c List.mem_cons_self) hc]
  · rintro rfl
    exact mapM_hexDigit?_map_hexChar ds

/-- A text over the alphabet has digits with values. -/
theorem forall_mem_hexAlphabet_iff {cs : List Char} :
    (∀ c ∈ cs, c ∈ hexAlphabet) ↔ ∃ ds : List (Fin 16), ds.map hexChar = cs := by
  simp only [mem_hexAlphabet_iff]
  rw [← Set.mem_range, Set.range_list_map]
  rfl

/-- The digits of a channel are those of its halves. -/
theorem channelChars_ofDigitPair (high low : Fin 16) :
    channelChars (ofDigitPair high low) = [hexChar high, hexChar low] := by
  have hhigh : (16 * high.val + low.val) / 16 = high.val := by omega
  have hlow : (16 * high.val + low.val) % 16 = low.val := by omega
  rw [channelChars, ofDigitPair]
  dsimp only
  rw [hhigh, hlow, hexChar, hexChar]

/-! ## Numbers of digits -/

/-- The digits, with each of three or four written twice. -/
def expandedDigits {α : Type} (digits : List α) : List α :=
  if digits.length ≤ 4 then digits.flatMap fun d => [d, d] else digits

/-- The digits behind those of the channels. -/
def alphaDigits {α : Type} (digits : List α) : List α :=
  if digits.length ≤ 4 then digits.drop 3 else digits.drop 6

theorem expandedDigits_map {α β : Type} (f : α → β) (digits : List α) :
    expandedDigits (digits.map f) = (expandedDigits digits).map f := by
  rw [expandedDigits, expandedDigits, List.length_map, apply_ite (List.map f), List.map_flatMap,
    List.flatMap_map]
  rfl

theorem alphaDigits_map {α β : Type} (f : α → β) (digits : List α) :
    alphaDigits (digits.map f) = (alphaDigits digits).map f := by
  rw [alphaDigits, alphaDigits, List.length_map, apply_ite (List.map f), List.map_drop, List.map_drop]

/-- Three, four, six or eight digits note a color. -/
theorem isSome_ofHexDigits?_iff (ds : List (Fin 16)) :
    (ofHexDigits? ds).isSome = true ↔ ds.length ∈ [3, 4, 6, 8] := by
  rcases ds with _ | ⟨_, _ | ⟨_, _ | ⟨_, _ | ⟨_, _ | ⟨_, _ | ⟨_, _ | ⟨_, _ | ⟨_, _ | ⟨_, _⟩⟩⟩⟩⟩⟩⟩⟩⟩ <;>
    simp [ofHexDigits?]

/-- Three or four digits note the same as each of them written twice. -/
theorem ofHexDigits?_expandedDigits {ds : List (Fin 16)} (h : ds.length ∈ [3, 4]) :
    ofHexDigits? (expandedDigits ds) = ofHexDigits? ds := by
  rcases ds with _ | ⟨_, _ | ⟨_, _ | ⟨_, _ | ⟨_, _ | ⟨_, _⟩⟩⟩⟩⟩
  case cons.cons.cons.nil => rfl
  case cons.cons.cons.cons.nil => rfl
  all_goals simp at h

/-- Six expanded digits are the channels, and two more are the alpha value. -/
theorem ofHexDigits?_cases {ds : List (Fin 16)} {color : Rgba} (h : ofHexDigits? ds = some color) :
    ∃ r r' g g' b b',
      (expandedDigits ds = [r, r', g, g', b, b'] ∧ alphaDigits ds = [] ∧
        color = solid (ofDigitPair r r') (ofDigitPair g g') (ofDigitPair b b')) ∨
      ∃ a a', expandedDigits ds = [r, r', g, g', b, b', a, a'] ∧
        (∀ d, d ∈ alphaDigits ds ↔ d = a ∨ d = a') ∧
        color = ⟨ofDigitPair r r', ofDigitPair g g', ofDigitPair b b',
          alphaOfChannel (ofDigitPair a a')⟩ := by
  rcases ds with _ | ⟨r, _ | ⟨r', _ | ⟨g, _ | ⟨g', _ | ⟨b, _ | ⟨b', _ | ⟨a, _ | ⟨a', _ | ⟨_, _⟩⟩⟩⟩⟩⟩⟩⟩⟩ <;>
    cases h
  · exact ⟨r, r, r', r', g, g, .inl ⟨rfl, rfl, rfl⟩⟩
  · exact ⟨r, r, r', r', g, g, .inr ⟨g', g', rfl, by simp [alphaDigits], rfl⟩⟩
  · exact ⟨r, r', g, g', b, b', .inl ⟨rfl, rfl, rfl⟩⟩
  · exact ⟨r, r', g, g', b, b', .inr ⟨a, a', rfl, by simp [alphaDigits], rfl⟩⟩

/-! ## What the digits tell -/

/-- The channels are written with the first six of the expanded digits. -/
theorem hexChars_of_ofHexDigits? {ds : List (Fin 16)} {color : Rgba}
    (h : ofHexDigits? ds = some color) : hexChars color.red color.green color.blue =
      '#' :: ((expandedDigits ds).take 6).map hexChar := by
  obtain ⟨r, r', g, g', b, b', ⟨hdigits, -, rfl⟩ | ⟨a, a', hdigits, -, rfl⟩⟩ := ofHexDigits?_cases h
  · rw [hdigits, hexChars, solid, channelChars_ofDigitPair, channelChars_ofDigitPair,
      channelChars_ofDigitPair]
    rfl
  · rw [hdigits, hexChars, channelChars_ofDigitPair, channelChars_ofDigitPair,
      channelChars_ofDigitPair]
    rfl

/-- Only the greatest channel is the alpha value of an opaque color. -/
theorem belowOne_alphaOfChannel : ∀ a a' : Fin 16,
    (alphaOfChannel (ofDigitPair a a')).belowOne = true ↔ a ≠ 15 ∨ a' ≠ 15 := by
  decide +kernel

/-- Only the least channel is the alpha value of a color that is not seen. -/
theorem atMostZero_alphaOfChannel : ∀ a a' : Fin 16,
    (alphaOfChannel (ofDigitPair a a')).atMostZero = true ↔ a = 0 ∧ a' = 0 := by
  decide +kernel

/-- Something behind the color is seen where an alpha digit is not the greatest. -/
theorem hasAlpha_of_ofHexDigits? {ds : List (Fin 16)} {color : Rgba}
    (h : ofHexDigits? ds = some color) :
    color.hasAlpha = true ↔ ∃ d ∈ alphaDigits ds, d ≠ 15 := by
  obtain ⟨r, r', g, g', b, b', ⟨-, hnone, rfl⟩ | ⟨a, a', -, halpha, rfl⟩⟩ := ofHexDigits?_cases h
  · have hopaque : (Binary.ofInt .single 1).belowOne = false := by decide
    simp [hasAlpha, solid, hnone, hopaque]
  · rw [hasAlpha, belowOne_alphaOfChannel]
    simp only [halpha]
    constructor
    · rintro (ha | ha)
      · exact ⟨a, .inl rfl, ha⟩
      · exact ⟨a', .inr rfl, ha⟩
    · rintro ⟨d, rfl | rfl, hd⟩
      · exact .inl hd
      · exact .inr hd

/-- Nothing of the color is seen where it has alpha digits, which are all zero. -/
theorem isTransparent_of_ofHexDigits? {ds : List (Fin 16)} {color : Rgba}
    (h : ofHexDigits? ds = some color) :
    color.isTransparent = true ↔ alphaDigits ds ≠ [] ∧ ∀ d ∈ alphaDigits ds, d = 0 := by
  obtain ⟨r, r', g, g', b, b', ⟨-, hnone, rfl⟩ | ⟨a, a', -, halpha, rfl⟩⟩ := ofHexDigits?_cases h
  · have hopaque : (Binary.ofInt .single 1).atMostZero = false := by decide
    simp [isTransparent, solid, hnone, hopaque]
  · have hne : alphaDigits ds ≠ [] := List.ne_nil_of_mem ((halpha a).2 (.inl rfl))
    rw [isTransparent, atMostZero_alphaOfChannel]
    simp [halpha, hne]

/-! ## Texts -/

/-- Behind `#` the digits are read. -/
theorem parse?_of_hash {text : String} {digits : List Char}
    (h : lower (trim text.toList) = '#' :: digits) :
    parse? text = (digits.mapM hexDigit?).bind ofHexDigits? := by
  have hword : '#' :: digits ≠ "transparent".toList := fun heq => by cases heq
  rw [parse?, h, ofChars?, if_neg hword]
  rfl

/-- What is in lower case is kept in lower case. -/
theorem toLower_of_mem_lower {cs ds : List Char} (h : lower cs = ds) : ∀ c ∈ ds, c.toLower = c := by
  subst h
  intro c hc
  obtain ⟨b, -, rfl⟩ := List.mem_map.1 hc
  exact toLower_toLower b

/-- The color of a hexadecimal notation is that of the values of its digits. -/
theorem parse?_eq_some_iff_of_hash {text : String} {digits : List Char}
    (h : lower (trim text.toList) = '#' :: digits) {color : Rgba} :
    parse? text = some color ↔ ∃ ds, digits = ds.map hexChar ∧ ofHexDigits? ds = some color := by
  have hlower : ∀ c ∈ digits, c.toLower = c := fun c hc =>
    toLower_of_mem_lower h c (List.mem_cons_of_mem _ hc)
  rw [parse?_of_hash h, Option.bind_eq_some_iff]
  exact exists_congr fun ds => and_congr_left fun _ => mapM_hexDigit?_eq_some_iff_of_lower hlower

/-- A hexadecimal notation has three, four, six or eight digits. -/
theorem isSome_parse?_iff_of_hash {text : String} {digits : List Char}
    (h : lower (trim text.toList) = '#' :: digits) : (parse? text).isSome = true ↔
      digits.length ∈ [3, 4, 6, 8] ∧ ∀ c ∈ digits, c ∈ hexAlphabet := by
  rw [forall_mem_hexAlphabet_iff, Option.isSome_iff_exists]
  constructor
  · rintro ⟨color, hcolor⟩
    obtain ⟨ds, rfl, hds⟩ := (parse?_eq_some_iff_of_hash h).1 hcolor
    rw [List.length_map, ← isSome_ofHexDigits?_iff, hds]
    exact ⟨rfl, ds, rfl⟩
  · rintro ⟨hlength, ds, rfl⟩
    rw [List.length_map, ← isSome_ofHexDigits?_iff, Option.isSome_iff_exists] at hlength
    obtain ⟨color, hcolor⟩ := hlength
    exact ⟨color, (parse?_eq_some_iff_of_hash h).2 ⟨ds, rfl, hcolor⟩⟩

/-- Digits that are written twice are read twice. -/
theorem mapM_hexDigit?_twice (cs : List Char) : (cs.flatMap fun c => [c, c]).mapM hexDigit? =
    (cs.mapM hexDigit?).map fun ds => ds.flatMap fun d => [d, d] := by
  induction cs with
  | nil => rfl
  | cons c cs ih =>
      rw [List.flatMap_cons, List.cons_append, List.singleton_append, List.mapM_cons, List.mapM_cons,
        List.mapM_cons, ih]
      cases hexDigit? c with
      | none => rfl
      | some d => cases cs.mapM hexDigit? <;> rfl

/-- A notation with three or four digits notes the same as the one with each of them written twice. -/
theorem parse?_eq_of_expandedDigits {text text' : String} {digits : List Char}
    (h : lower (trim text.toList) = '#' :: digits) (hlength : digits.length ∈ [3, 4])
    (h' : lower (trim text'.toList) = '#' :: expandedDigits digits) : parse? text' = parse? text := by
  have hshort (n : Nat) (hn : n ∈ [3, 4]) : n ≤ 4 := by
    simp only [List.mem_cons, List.not_mem_nil, or_false] at hn
    omega
  rw [parse?_of_hash h, parse?_of_hash h', expandedDigits, if_pos (hshort _ hlength),
    mapM_hexDigit?_twice]
  cases hread : digits.mapM hexDigit? with
  | none => rfl
  | some ds =>
      rw [(mapM_hexDigit?_eq_some_iff.1 hread).length_eq] at hlength
      have hds := ofHexDigits?_expandedDigits hlength
      rwa [expandedDigits, if_pos (hshort _ hlength)] at hds

/-- The greatest digit is `f`, and the least is `0`. -/
theorem hexChar_eq_iff : ∀ d : Fin 16, (hexChar d = 'f' ↔ d = 15) ∧ (hexChar d = '0' ↔ d = 0) := by
  decide

/-- Digits are in lower case, and no blanks. -/
theorem lower_trim_hash (ds : List (Fin 16)) :
    lower (trim ('#' :: ds.map hexChar)) = '#' :: ds.map hexChar := by
  have hdigit : ∀ d : Fin 16, isBlank (hexChar d) = false ∧ (hexChar d).toLower = hexChar d := by
    decide
  have hkept : ∀ c ∈ '#' :: ds.map hexChar, isBlank c = false ∧ c.toLower = c := by
    refine List.forall_mem_cons.2 ⟨by decide, fun c hc => ?_⟩
    obtain ⟨d, -, rfl⟩ := List.mem_map.1 hc
    exact hdigit d
  rw [trim_eq_self fun c hc => (hkept c hc).1]
  exact (List.map_congr_left fun c hc => (hkept c hc).2).trans (List.map_id _)

/-- The functional notation of an opaque color. -/
def functionText (red green blue : Channel) : String :=
  "rgb(" ++ toString red.val ++ ", " ++ toString green.val ++ ", " ++ toString blue.val ++ ")"

/-- The digits of a channel note the channel. -/
theorem notesChannel_toDigits (c : Channel) : NotesChannel (Nat.toDigits 10 c.val) c := by
  set d : Decimal := ⟨false, c.val, 0⟩ with hd
  have hread : Decimal.ofChars? (Nat.toDigits 10 c.val) = some d := by
    have hdigits := Decimal.ofChars?_digits false (Decimal.toDigits_ne_nil c.val)
      (Decimal.isDigit_toDigits c.val)
    rwa [Nat.ofDigitChars_ten_toDigits] at hdigits
  have hvalue : |d.value| = c.val := by simp [hd, Decimal.value]
  have hlt := c.isLt
  have hholds : Format.double.Holds |d.value| := by
    have hbits : Format.double.precision = 53 := rfl
    exact ⟨c.val, 0, by rw [hbits]; omega, by decide, by decide, by rw [hvalue]; simp⟩
  have hexact := Binary.isExactly_ofDecimal Format.spans_double hholds
  rw [hvalue] at hexact
  refine ⟨Binary.ofDecimal .double d, ⟨hexact.isFinite, .inl ?_⟩, ?_⟩
  · rw [Binary.ofChars?, hread]
  · rw [hexact.value_eq, if_neg Bool.false_ne_true, one_mul, roundAway_natCast]
    omega

/-- Digits are a piece of a list. -/
theorem isPiece_toDigits (n : Nat) : IsPiece (Nat.toDigits 10 n) := by
  refine ⟨Decimal.toDigits_ne_nil n, fun c hc => ?_⟩
  have hdigit := Decimal.isDigit_toDigits n c hc
  refine ⟨isBlank_of_isDigit hdigit, ?_, ?_⟩ <;> rintro rfl <;> cases hdigit

/-- The text is a functional notation with the digits of the channels. -/
theorem isFunction_functionText (red green blue : Channel) :
    IsFunction false [Nat.toDigits 10 red.val, Nat.toDigits 10 green.val, Nat.toDigits 10 blue.val]
      (functionText red green blue) := by
  have hnone : AllBlank [] := List.forall_mem_nil _
  have hspace : AllBlank [' '] := by decide
  have hbody := @CommaSeparated.cons [] _ [] _ _ hnone (isPiece_toDigits red.val) hnone
    (@CommaSeparated.cons [' '] _ [] _ _ hspace (isPiece_toDigits green.val) hnone
      (@CommaSeparated.one [' '] _ [] hspace (isPiece_toDigits blue.val) hnone))
  refine ⟨[], "rgb(".toList, _, [], hnone, hnone, by decide, .plain (.inl hbody), ?_⟩
  simp [functionText]

/-- The functional notation is read as the channels. -/
theorem parse?_functionText (red green blue : Channel) :
    parse? (functionText red green blue) = some (solid red green blue) := by
  obtain ⟨body, hbody, hparse⟩ := (isFunction_functionText red green blue).exists_body
  rw [hparse, hbody.ofFunctionBody?_eq_some_iff]
  exact ⟨fun h => absurd h Bool.false_ne_true, .three (notesChannel_toDigits red)
    (notesChannel_toDigits green) (notesChannel_toDigits blue)⟩

/-- The digits of a channel are the halves of its value. -/
theorem exists_ofDigitPair (c : Channel) : ∃ high low, ofDigitPair high low = c := by
  have hlt := c.isLt
  refine ⟨⟨c.val / 16, by omega⟩, ⟨c.val % 16, by omega⟩, ?_⟩
  rw [← Fin.val_inj, ofDigitPair]
  dsimp only
  omega

/-- The form `#rrggbb` has six digits, which note the channels. -/
theorem exists_hexChars_eq (red green blue : Channel) :
    ∃ ds : List (Fin 16), hexChars red green blue = '#' :: ds.map hexChar ∧
      ofHexDigits? ds = some (solid red green blue) := by
  obtain ⟨r, r', rfl⟩ := exists_ofDigitPair red
  obtain ⟨g, g', rfl⟩ := exists_ofDigitPair green
  obtain ⟨b, b', rfl⟩ := exists_ofDigitPair blue
  refine ⟨[r, r', g, g', b, b'], ?_, rfl⟩
  rw [hexChars, channelChars_ofDigitPair, channelChars_ofDigitPair, channelChars_ofDigitPair]
  rfl

/-- The form `#rrggbb` is read as the channels. -/
theorem parse?_hexChars (red green blue : Channel) :
    parse? (String.ofList (hexChars red green blue)) = some (solid red green blue) := by
  obtain ⟨ds, hchars, hds⟩ := exists_hexChars_eq red green blue
  rw [hchars, parse?_of_hash (by rw [String.toList_ofList, lower_trim_hash]),
    mapM_hexDigit?_map_hexChar, Option.bind_some, hds]

/-- **A hexadecimal notation notes what its digits tell**, and reading it by places is never stopped; the
form `#rrggbb` of a color and the functional notation are read back as its channels. -/
theorem parse?_hex :
    (∀ text digits, lower (trim text.toList) = '#' :: digits →
      readAt text = .done (parse? text) ∧
      -- three, four, six or eight digits note a color, and nothing else does
      ((parse? text).isSome = true ↔
        digits.length ∈ [3, 4, 6, 8] ∧ ∀ c ∈ digits, c ∈ hexAlphabet) ∧
      -- three or four of them note the same as each written twice
      (digits.length ∈ [3, 4] → ∀ text', lower (trim text'.toList) = '#' :: expandedDigits digits →
        parse? text' = parse? text) ∧
      ∀ color, parse? text = some color →
        color.hex.toList = '#' :: (expandedDigits digits).take 6 ∧
        (color.hasAlpha = true ↔ ∃ c ∈ alphaDigits digits, c ≠ 'f') ∧
        (color.isTransparent = true ↔
          alphaDigits digits ≠ [] ∧ ∀ c ∈ alphaDigits digits, c = '0')) ∧
    (∀ c : Rgba, parse? c.hex = some (solid c.red c.green c.blue)) ∧
    ∀ red green blue : Channel, parse? (functionText red green blue) =
      parse? (String.ofList (hexChars red green blue)) := by
  refine ⟨fun text digits h => ⟨readAt_eq text, isSome_parse?_iff_of_hash h,
    fun hlength text' h' => parse?_eq_of_expandedDigits h hlength h', fun color hcolor => ?_⟩,
    fun c => parse?_hexChars _ _ _, fun red green blue => ?_⟩
  · obtain ⟨ds, rfl, hds⟩ := (parse?_eq_some_iff_of_hash h).1 hcolor
    rw [expandedDigits_map, alphaDigits_map, hex, String.toList_ofList, hexChars_of_ofHexDigits? hds,
      hasAlpha_of_ofHexDigits? hds, isTransparent_of_ofHexDigits? hds, List.map_take]
    simp [hexChar_eq_iff]
  · rw [parse?_functionText, parse?_hexChars]

/-- Four digits in mixed letter case, and the same written twice. -/
theorem parse?_hex_sample :
    lower (trim " #0aF8\n".toList) = '#' :: "0af8".toList ∧ (parse? " #0aF8\n").isSome = true ∧
      parse? "#00AAff88" = parse? " #0aF8\n" := by
  have h : lower (trim " #0aF8\n".toList) = '#' :: "0af8".toList := by decide
  obtain ⟨-, hsome, htwice, -⟩ := parse?_hex.1 _ _ h
  have hdigits : ∀ c ∈ "0af8".toList, c ∈ hexAlphabet :=
    forall_mem_hexAlphabet_iff.2 ⟨[0, 10, 15, 8], by decide⟩
  exact ⟨h, hsome.2 ⟨by decide, hdigits⟩, htwice (by decide) _ (by decide)⟩

end CanvasExport.Rgba
