import CanvasExport.Color
import Mathlib.Data.List.Forall2
/-!
# Reading a color by places

`Rgba.parse?` matches the components of a color with patterns.  Here the same text is read by places: the
digits of a hexadecimal notation are counted in bytes and cut out two bytes at a time, and the components
of a functional notation are counted and then taken by their index.  A place that is not there would stop
such a reading (`Rgba.Misplaced`).  No text stops it, and it gives the same colors (`Rgba.readAt_eq`).
-/

namespace CanvasExport

/-! ## Bytes of a text -/

namespace Text

/-- The length of a text in bytes. -/
def byteLength : List Char → Nat
  | [] => 0
  | c :: cs => c.utf8Size + byteLength cs

/-- What follows the first bytes, if a character ends with the last of them. -/
def dropBytes? : List Char → Nat → Option (List Char)
  | cs, 0 => some cs
  | [], _ + 1 => none
  | c :: cs, n + 1 => if c.utf8Size ≤ n + 1 then dropBytes? cs (n + 1 - c.utf8Size) else none

/-- The first bytes, if a character ends with the last of them. -/
def takeBytes? : List Char → Nat → Option (List Char)
  | _, 0 => some []
  | [], _ + 1 => none
  | c :: cs, n + 1 =>
      if c.utf8Size ≤ n + 1 then (takeBytes? cs (n + 1 - c.utf8Size)).map (c :: ·) else none

/-- So many bytes from a place on: nothing where they reach behind the end of the text, or begin or end
inside a character. -/
def slice? (cs : List Char) (start size : Nat) : Option (List Char) :=
  (dropBytes? cs start).bind (takeBytes? · size)

/-- The characters with one byte. -/
def IsSingleByte (cs : List Char) : Prop := ∀ c ∈ cs, c.utf8Size = 1

/-- A byte for each character. -/
theorem IsSingleByte.byteLength_eq {cs : List Char} (h : IsSingleByte cs) :
    byteLength cs = cs.length := by
  induction cs with
  | nil => rfl
  | cons c cs ih =>
      rw [byteLength, h c List.mem_cons_self, ih fun b hb => h b (List.mem_cons_of_mem c hb),
        List.length_cons, Nat.add_comm]

theorem IsSingleByte.dropBytes?_eq {cs : List Char} (h : IsSingleByte cs) {n : Nat}
    (hn : n ≤ cs.length) : dropBytes? cs n = some (cs.drop n) := by
  induction cs generalizing n with
  | nil =>
      obtain rfl : n = 0 := Nat.le_zero.1 hn
      rfl
  | cons c cs ih =>
      cases n with
      | zero => rfl
      | succ n =>
          have hc : c.utf8Size = 1 := h c List.mem_cons_self
          rw [dropBytes?, hc, if_pos (Nat.le_add_left 1 n), Nat.add_sub_cancel, List.drop_succ_cons]
          exact ih (fun b hb => h b (List.mem_cons_of_mem c hb)) (Nat.le_of_succ_le_succ hn)

theorem IsSingleByte.takeBytes?_eq {cs : List Char} (h : IsSingleByte cs) {n : Nat}
    (hn : n ≤ cs.length) : takeBytes? cs n = some (cs.take n) := by
  induction cs generalizing n with
  | nil =>
      obtain rfl : n = 0 := Nat.le_zero.1 hn
      rfl
  | cons c cs ih =>
      cases n with
      | zero => rfl
      | succ n =>
          have hc : c.utf8Size = 1 := h c List.mem_cons_self
          have htail := ih (fun b hb => h b (List.mem_cons_of_mem c hb)) (Nat.le_of_succ_le_succ hn)
          rw [takeBytes?, hc, if_pos (Nat.le_add_left 1 n), Nat.add_sub_cancel, htail,
            List.take_succ_cons, Option.map_some]

/-- Bytes and characters have the same places. -/
theorem IsSingleByte.slice?_eq {cs : List Char} (h : IsSingleByte cs) {start size : Nat}
    (hend : start + size ≤ cs.length) : slice? cs start size = some ((cs.drop start).take size) := by
  have hdrop : IsSingleByte (cs.drop start) := fun c hc => h c (List.mem_of_mem_drop hc)
  rw [slice?, h.dropBytes?_eq (by omega), Option.bind_some, hdrop.takeBytes?_eq]
  rw [List.length_drop]
  omega

end Text

namespace Rgba

/-! ## The reading -/

/-- A place of a text that is not there. -/
inductive Misplaced
  /-- There is no component with the index. -/
  | component (index : Nat)
  /-- The two bytes from the place on are no characters of the text. -/
  | digits (start : Nat)
  deriving DecidableEq, Repr

/-- A reading that ends with a result or without one, or is stopped at a place that is not there. -/
abbrev Placed (α : Type) := OptionT (Except Misplaced) α

/-- The reading that is not stopped. -/
def Placed.done {α : Type} (result : Option α) : Placed α := OptionT.mk (.ok result)

/-- The reading that is stopped. -/
def Placed.stopped {α : Type} (place : Misplaced) : Placed α := OptionT.mk (.error place)

/-- The channel that a text of hexadecimal digits writes. -/
def channelOfHex? (cs : List Char) : Option Channel :=
  match cs.mapM hexDigit? with
  | some [high, low] => some (ofDigitPair high low)
  | _ => none

/-- The channel of the two digits from a place on. -/
def channelAt (digits : List Char) (start : Nat) : Placed Channel :=
  match Text.slice? digits start 2 with
  | some pair => .done (channelOfHex? pair)
  | none => .stopped (.digits start)

/-- Six or eight digits: three or four of them stand for two each. -/
def expanded? (digits : List Char) : Option (List Char) :=
  if Text.byteLength digits = 3 ∨ Text.byteLength digits = 4 then
    some (digits.flatMap fun c => [c, c])
  else if Text.byteLength digits = 6 ∨ Text.byteLength digits = 8 then some digits
  else none

/-- The color of six or eight digits, cut out two by two: first the alpha value, and then the channels. -/
def channelsAt (digits : List Char) : Placed Rgba := do
  let alpha ← if Text.byteLength digits = 8 then alphaOfChannel <$> channelAt digits 6
    else pure (Binary.ofInt .single 1)
  return ⟨← channelAt digits 0, ← channelAt digits 2, ← channelAt digits 4, alpha⟩

/-- The color of hexadecimal digits: the characters are checked before any of them are cut out. -/
def hexAt (digits : List Char) : Placed Rgba :=
  if digits.all fun c => (hexDigit? c).isSome then Placed.done (expanded? digits) >>= channelsAt
  else failure

/-- The channel of the component with an index. -/
def componentAt (components : List (List Char)) (index : Nat) : Placed Channel :=
  match components[index]? with
  | some cs => .done (channel? cs)
  | none => .stopped (.component index)

/-- The color of components and an alpha value: the alpha value is read first, and then the components
with the indices zero to two. -/
def componentsAt (components : List (List Char)) (alpha : Option (List Char)) : Placed Rgba := do
  let alpha ← match alpha with
    | some a => Placed.done (alpha? a)
    | none => pure (Binary.ofInt .single 1)
  return ⟨← componentAt components 0, ← componentAt components 1, ← componentAt components 2, alpha⟩

/-- The color between the parentheses of `rgb(…)`: the components are counted, and the last of four is
taken away as the alpha value. -/
def functionAt (body : List Char) : Placed Rgba :=
  let (channels, behind) := Text.cut '/' body
  let pieces := if channels.contains ',' then (Text.parts ',' channels).map Text.trim
    else Text.words channels
  match behind, pieces.length with
  | some a, 3 => componentsAt pieces (some (Text.trim a))
  | none, 4 => componentsAt pieces.dropLast pieces.getLast?
  | none, 3 => componentsAt pieces none
  | _, _ => failure

/-- The color that a text notes, read by places. -/
def readAt (text : String) : Placed Rgba :=
  let cs := Text.lower (Text.trim text.toList)
  if cs = "transparent".toList then pure transparent
  else match Text.after? ['#'] cs with
    | some digits => hexAt digits
    | none => do
        let rest ← Placed.done ((Text.after? "rgba(".toList cs).or (Text.after? "rgb(".toList cs))
        let body ← Placed.done (Text.before? [')'] rest)
        functionAt body

/-! ## No reading is stopped -/

theorem Placed.done_some_bind {α β : Type} (a : α) (next : α → Placed β) :
    Placed.done (some a) >>= next = next a := rfl

theorem Placed.done_none_bind {α β : Type} (next : α → Placed β) :
    Placed.done none >>= next = .done none := rfl

/-- A hexadecimal digit has one byte. -/
theorem utf8Size_of_hexDigit? {c : Char} {d : Fin 16} (h : hexDigit? c = some d) : c.utf8Size = 1 := by
  rw [Char.utf8Size_eq_one_iff, UInt32.le_iff_toNat_le]
  show c.toNat ≤ 127
  unfold hexDigit? at h
  dsimp only at h
  split at h
  · omega
  split at h
  · omega
  split at h
  · omega
  · cases h

/-- The characters are hexadecimal digits with these values. -/
def AreHexDigits (cs : List Char) (ds : List (Fin 16)) : Prop :=
  List.Forall₂ (fun c d => hexDigit? c = some d) cs ds

theorem AreHexDigits.isSingleByte {cs : List Char} {ds : List (Fin 16)} (h : AreHexDigits cs ds) :
    Text.IsSingleByte cs := by
  intro c hc
  obtain ⟨i, hi, rfl⟩ := List.getElem_of_mem hc
  exact utf8Size_of_hexDigit? (h.get hi (h.length_eq ▸ hi))

/-- Characters have values exactly when all of them are hexadecimal digits. -/
theorem mapM_hexDigit?_eq_some_iff {cs : List Char} {ds : List (Fin 16)} :
    cs.mapM hexDigit? = some ds ↔ AreHexDigits cs ds := by
  induction cs generalizing ds with
  | nil => simp [AreHexDigits, eq_comm]
  | cons c cs ih =>
      rw [List.mapM_cons]
      constructor
      · intro h
        simp only [Option.bind_eq_bind, Option.bind_eq_some_iff, Option.pure_def,
          Option.some.injEq] at h
        obtain ⟨d, hd, tail, htail, rfl⟩ := h
        exact .cons hd (ih.1 htail)
      · rintro (_ | ⟨hd, htail⟩)
        rw [hd, ih.2 htail]
        rfl

/-- The two digits from a place on are the channel. -/
theorem channelAt_append (before : List Char) {after : List Char} {c c' : Char} {d d' : Fin 16}
    (hbytes : Text.IsSingleByte (before ++ c :: c' :: after)) (hc : hexDigit? c = some d)
    (hc' : hexDigit? c' = some d') :
    channelAt (before ++ c :: c' :: after) before.length = .done (some (ofDigitPair d d')) := by
  have hslice : Text.slice? (before ++ c :: c' :: after) before.length 2 = some [c, c'] := by
    rw [hbytes.slice?_eq (by simp), List.drop_left]
    rfl
  have hmap : [c, c'].mapM hexDigit? = some [d, d'] :=
    mapM_hexDigit?_eq_some_iff.2 (.cons hc (.cons hc' .nil))
  rw [channelAt, hslice]
  dsimp only
  rw [channelOfHex?, hmap]

/-- Six digits are cut into three channels. -/
theorem channelsAt_six {r r' g g' b b' : Char} {dr dr' dg dg' db db' : Fin 16}
    (h : AreHexDigits [r, r', g, g', b, b'] [dr, dr', dg, dg', db, db']) :
    channelsAt [r, r', g, g', b, b'] = .done (ofHexDigits? [dr, dr', dg, dg', db, db']) := by
  have hbytes := h.isSingleByte
  have hlength : ¬ Text.byteLength [r, r', g, g', b, b'] = 8 := by
    rw [hbytes.byteLength_eq]
    exact (by decide : ¬ 6 = 8)
  obtain _ | ⟨hr, _ | ⟨hr', _ | ⟨hg, _ | ⟨hg', _ | ⟨hb, _ | ⟨hb', -⟩⟩⟩⟩⟩⟩ := h
  have hred : channelAt [r, r', g, g', b, b'] 0 = _ := channelAt_append [] hbytes hr hr'
  have hgreen : channelAt [r, r', g, g', b, b'] 2 = _ := channelAt_append [r, r'] hbytes hg hg'
  have hblue : channelAt [r, r', g, g', b, b'] 4 = _ :=
    channelAt_append [r, r', g, g'] hbytes hb hb'
  rw [channelsAt, if_neg hlength, hred, hgreen, hblue]
  rfl

/-- Eight digits are cut into three channels and the alpha value. -/
theorem channelsAt_eight {r r' g g' b b' a a' : Char} {dr dr' dg dg' db db' da da' : Fin 16}
    (h : AreHexDigits [r, r', g, g', b, b', a, a'] [dr, dr', dg, dg', db, db', da, da']) :
    channelsAt [r, r', g, g', b, b', a, a'] =
      .done (ofHexDigits? [dr, dr', dg, dg', db, db', da, da']) := by
  have hbytes := h.isSingleByte
  have hlength : Text.byteLength [r, r', g, g', b, b', a, a'] = 8 := hbytes.byteLength_eq
  obtain _ | ⟨hr, _ | ⟨hr', _ | ⟨hg, _ | ⟨hg', _ | ⟨hb, _ | ⟨hb', _ | ⟨ha, _ | ⟨ha', -⟩⟩⟩⟩⟩⟩⟩⟩ := h
  have hred : channelAt [r, r', g, g', b, b', a, a'] 0 = _ := channelAt_append [] hbytes hr hr'
  have hgreen : channelAt [r, r', g, g', b, b', a, a'] 2 = _ :=
    channelAt_append [r, r'] hbytes hg hg'
  have hblue : channelAt [r, r', g, g', b, b', a, a'] 4 = _ :=
    channelAt_append [r, r', g, g'] hbytes hb hb'
  have halpha : channelAt [r, r', g, g', b, b', a, a'] 6 = _ :=
    channelAt_append [r, r', g, g', b, b'] hbytes ha ha'
  rw [channelsAt, if_pos hlength, halpha, hred, hgreen, hblue]
  rfl

/-- Digits are expanded, or their number is none of those that note a color. -/
theorem expanded?_bind_channelsAt {cs : List Char} {ds : List (Fin 16)} (h : AreHexDigits cs ds) :
    Placed.done (expanded? cs) >>= channelsAt = .done (ofHexDigits? ds) := by
  have hlength := h.isSingleByte.byteLength_eq
  obtain _ | ⟨h₀, _ | ⟨h₁, _ | ⟨h₂, _ | ⟨h₃, _ | ⟨h₄, _ | ⟨h₅, _ | ⟨h₆, _ | ⟨h₇, _ | _⟩⟩⟩⟩⟩⟩⟩⟩ := h
  case cons.cons.cons.nil =>
    rw [expanded?, hlength, if_pos (by simp), Placed.done_some_bind]
    exact channelsAt_six (.cons h₀ (.cons h₀ (.cons h₁ (.cons h₁ (.cons h₂ (.cons h₂ .nil))))))
  case cons.cons.cons.cons.nil =>
    rw [expanded?, hlength, if_pos (by simp), Placed.done_some_bind]
    exact channelsAt_eight (.cons h₀ (.cons h₀ (.cons h₁ (.cons h₁ (.cons h₂ (.cons h₂ (.cons h₃
      (.cons h₃ .nil))))))))
  case cons.cons.cons.cons.cons.cons.nil =>
    rw [expanded?, hlength, if_neg (by simp), if_pos (by simp), Placed.done_some_bind]
    exact channelsAt_six (.cons h₀ (.cons h₁ (.cons h₂ (.cons h₃ (.cons h₄ (.cons h₅ .nil))))))
  case cons.cons.cons.cons.cons.cons.cons.cons.nil =>
    rw [expanded?, hlength, if_neg (by simp), if_pos (by simp), Placed.done_some_bind]
    exact channelsAt_eight (.cons h₀ (.cons h₁ (.cons h₂ (.cons h₃ (.cons h₄ (.cons h₅ (.cons h₆
      (.cons h₇ .nil))))))))
  all_goals
    rw [expanded?, hlength, if_neg (by simp), if_neg (by simp), Placed.done_none_bind]
    rfl

/-- Characters have values exactly where each is found to be a hexadecimal digit. -/
theorem isSome_mapM_hexDigit? (cs : List Char) :
    (cs.mapM hexDigit?).isSome = cs.all fun c => (hexDigit? c).isSome := by
  induction cs with
  | nil => rfl
  | cons c cs ih =>
      rw [List.mapM_cons, List.all_cons, ← ih]
      cases hexDigit? c with
      | none => rfl
      | some d => cases cs.mapM hexDigit? <;> rfl

/-- Hexadecimal digits are read without being stopped. -/
theorem hexAt_eq (cs : List Char) :
    hexAt cs = .done ((cs.mapM hexDigit?).bind ofHexDigits?) := by
  rw [hexAt, ← isSome_mapM_hexDigit?]
  cases h : cs.mapM hexDigit? with
  | none => rfl
  | some ds =>
      have hdigits := mapM_hexDigit?_eq_some_iff.1 h
      rw [Option.isSome_some, if_pos rfl, expanded?_bind_channelsAt hdigits, Option.bind_some]

/-- Three components with the indices zero to two are read without being stopped. -/
theorem componentsAt_eq (r g b : List Char) (alpha : Option (List Char)) :
    componentsAt [r, g, b] alpha = .done (do
      let alpha ← match alpha with
        | some a => alpha? a
        | none => some (Binary.ofInt .single 1)
      return ⟨← channel? r, ← channel? g, ← channel? b, alpha⟩) := by
  have hchannels (alpha : Single) : (do
      return ⟨← componentAt [r, g, b] 0, ← componentAt [r, g, b] 1, ← componentAt [r, g, b] 2, alpha⟩ :
        Placed Rgba) =
      .done (do return ⟨← channel? r, ← channel? g, ← channel? b, alpha⟩) := by
    have hred : componentAt [r, g, b] 0 = .done (channel? r) := rfl
    have hgreen : componentAt [r, g, b] 1 = .done (channel? g) := rfl
    have hblue : componentAt [r, g, b] 2 = .done (channel? b) := rfl
    rw [hred, hgreen, hblue]
    cases channel? r <;> cases channel? g <;> cases channel? b <;> rfl
  cases alpha with
  | none => exact hchannels _
  | some a =>
      rw [componentsAt]
      dsimp only
      cases alpha? a with
      | none => rfl
      | some alpha => exact hchannels alpha

/-- The components of a functional notation are read without being stopped. -/
theorem functionAt_eq (body : List Char) : functionAt body = .done (ofFunctionBody? body) := by
  unfold functionAt ofFunctionBody? components?
  dsimp only
  generalize (Text.cut '/' body).2 = behind
  generalize (if (Text.cut '/' body).1.contains ',' then
    (Text.parts ',' (Text.cut '/' body).1).map Text.trim else Text.words (Text.cut '/' body).1) = pieces
  rcases pieces with _ | ⟨r, _ | ⟨g, _ | ⟨b, _ | ⟨a, _ | ⟨c, pieces⟩⟩⟩⟩⟩ <;> cases behind
  case cons.cons.cons.nil.none => exact componentsAt_eq r g b none
  case cons.cons.cons.nil.some alpha => exact componentsAt_eq r g b (some (Text.trim alpha))
  case cons.cons.cons.cons.nil.none => exact componentsAt_eq r g b (some a)
  all_goals rfl

/-- **No text stops the reading by places, and it gives the color that the text notes.** -/
theorem readAt_eq (text : String) : readAt text = .done (parse? text) := by
  rw [readAt, parse?]
  generalize Text.lower (Text.trim text.toList) = cs
  rw [ofChars?]
  by_cases hword : cs = "transparent".toList
  · rw [if_pos hword, if_pos hword]
    rfl
  rw [if_neg hword, if_neg hword]
  cases Text.after? ['#'] cs with
  | some digits => exact hexAt_eq digits
  | none =>
      dsimp only
      cases (Text.after? "rgba(".toList cs).or (Text.after? "rgb(".toList cs) with
      | none => rfl
      | some rest =>
          rw [Placed.done_some_bind, Option.bind_some]
          cases Text.before? [')'] rest with
          | none => rfl
          | some body => exact functionAt_eq body

end Rgba

end CanvasExport
