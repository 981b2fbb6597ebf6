import CanvasExport.Proofs.ColorPlaces
import CanvasExport.Proofs.Nearest
import CanvasExport.Proofs.Numeral
import CanvasExport.Proofs.Pieces
/-!
# The functional notation of a color

The components of a color stand between the parentheses of `rgb(…)` or `rgba(…)`, separated by commas or
by blanks, the last one perhaps behind a slash, in any letter case and with blanks around every part
(`Rgba.IsFunction`).  What the components note does not depend on how they are separated
(`Rgba.parse?_function`).
-/

namespace CanvasExport.Rgba

open Text

/-! ## What the components note -/

/-- The finite number that a component notes: a number, or a percentage, which counts as much as
`ofPercentage` says. -/
def NotesNumber (ofPercentage : Double → Double) (cs : List Char) (x : Double) : Prop :=
  x.isFinite = true ∧ (Binary.ofChars? .double cs = some x ∨
    ∃ percentage y, cs = percentage ++ ['%'] ∧ Binary.ofChars? .double percentage = some y ∧
      ofPercentage y = x)

/-- A hundred percent of a channel are 255: the percentage times 255, and then over 100. -/
def channelPercentage (y : Double) : Double := (y.scale 255 1).scale 1 100

/-- A hundred percent of the alpha value are one: the percentage over 100. -/
def alphaPercentage (y : Double) : Double := y.scale 1 100

/-- The channel that a component notes: its number, rounded half away from zero and kept between 0 and
255. -/
def NotesChannel (cs : List Char) (c : Channel) : Prop :=
  ∃ x, NotesNumber channelPercentage cs x ∧ (c.val : ℤ) = max 0 (min 255 (roundAway x.value))

/-- The alpha value that a component notes: its number, kept between zero and one, in single
precision. -/
def NotesAlpha (cs : List Char) (a : Single) : Prop :=
  ∃ x, NotesNumber alphaPercentage cs x ∧ a = x.clampUnit.convert .single

/-- The color that three components note, or four. -/
inductive NotesColor : List (List Char) → Rgba → Prop
  | three {x y z : List Char} {red green blue : Channel} (hx : NotesChannel x red)
      (hy : NotesChannel y green) (hz : NotesChannel z blue) :
      NotesColor [x, y, z] (solid red green blue)
  | four {x y z w : List Char} {red green blue : Channel} {alpha : Single} (hx : NotesChannel x red)
      (hy : NotesChannel y green) (hz : NotesChannel z blue) (hw : NotesAlpha w alpha) :
      NotesColor [x, y, z, w] ⟨red, green, blue, alpha⟩

/-! ## The components of a text -/

/-- The text between the parentheses, with its components: all of them separated in one way, or the last
one behind a slash. -/
inductive IsBody : Bool → List (List Char) → List Char → Prop
  | plain {pieces : List (List Char)} {cs : List Char} (h : Separated pieces cs) :
      IsBody false pieces cs
  | slash {pieces : List (List Char)} {cs before last after : List Char} (h : Separated pieces cs)
      (hbefore : AllBlank before) (hlast : IsPiece last) (hafter : AllBlank after) :
      IsBody true (pieces ++ [last]) (cs ++ '/' :: (before ++ (last ++ after)))

/-- The text is a functional notation with these components, up to letter case. -/
def IsFunction (slash : Bool) (pieces : List (List Char)) (text : String) : Prop :=
  ∃ before name body after, AllBlank before ∧ AllBlank after ∧
    name ∈ ["rgb(".toList, "rgba(".toList] ∧ IsBody slash pieces body ∧
    lower text.toList = lower (before ++ (name ++ (body ++ [')']) ++ after))

/-- The components as channels and alpha value, if there are as many as it takes. -/
def arranged? : Bool → List (List Char) →
    Option (List Char × List Char × List Char × Option (List Char))
  | false, [x, y, z] => some (x, y, z, none)
  | _, [x, y, z, w] => some (x, y, z, some w)
  | _, _ => none

/-! ## Numbers -/

/-- A percentage is no number. -/
theorem ofChars?_percent (cs : List Char) : Binary.ofChars? .double (cs ++ ['%']) = none := by
  have hmem : '%' ∈ cs ++ ['%'] := by simp
  have hword : ∀ word : List Char, '%' ∉ word →
      ¬ (Decimal.splitSign (cs ++ ['%'])).2.map Char.toLower = word := by
    rintro word hnot rfl
    have hbehind := Decimal.mem_splitSign hmem (by decide) (by decide)
    exact hnot (List.mem_map.2 ⟨'%', hbehind, rfl⟩)
  have hnone : Decimal.ofChars? (cs ++ ['%']) = none :=
    Decimal.ofChars?_eq_none hmem (by decide) (by decide)
  rw [Binary.ofChars?, hnone]
  simp only [Binary.ofWord?]
  rw [if_neg, if_neg]
  · exact hword _ (by decide)
  · rintro (h | h)
    · exact hword _ (by decide) h
    · exact hword _ (by decide) h

/-- A component is read as the number that it notes. -/
theorem component?_eq_some_iff {unit : Nat} {cs : List Char} (h : ∀ c ∈ cs, isBlank c = false)
    {x : Double} : component? unit cs = some x ↔
      NotesNumber (fun (y : Double) => (y.scale unit 1).scale 1 100) cs x := by
  rw [component?, NotesNumber, Option.filter_eq_some_iff, and_comm]
  refine and_congr_right fun _ => ?_
  cases hpercent : before? ['%'] cs with
  | none =>
      refine (or_iff_left ?_).symm
      rintro ⟨percentage, y, heq, -⟩
      rw [before?_eq_some_iff.2 heq] at hpercent
      cases hpercent
  | some percentage =>
      obtain rfl := before?_eq_some_iff.1 hpercent
      have htrim : trim percentage = percentage :=
        trim_eq_self fun c hc => h c (List.mem_append_left _ hc)
      have hplain : ¬ Binary.ofChars? .double (percentage ++ ['%']) = some x := by
        rw [ofChars?_percent]
        exact (Option.some_ne_none x).symm
      rw [or_iff_right hplain]
      dsimp only
      rw [htrim, Option.map_eq_some_iff]
      constructor
      · rintro ⟨y, hread, hx⟩
        exact ⟨percentage, y, rfl, hread, hx⟩
      · rintro ⟨percentage', y, heq, hread, hx⟩
        obtain rfl := List.append_cancel_right heq
        exact ⟨y, hread, hx⟩

/-- A component is read as the channel that it notes. -/
theorem channel?_eq_some_iff {cs : List Char} (h : IsPiece cs) {c : Channel} :
    channel? cs = some c ↔ NotesChannel cs c := by
  have hread (x : Double) : component? 255 cs = some x ↔ NotesNumber channelPercentage cs x :=
    component?_eq_some_iff fun c hc => (h.2 c hc).1
  -- the nearest integer within the bounds is a channel
  have hround {x : Double} (hfinite : x.isFinite = true) :
      Channel.ofNat (x.roundWithin 0 255).toNat = c ↔
        (c.val : ℤ) = max 0 (min 255 (roundAway x.value)) := by
    rw [Binary.roundWithin_eq hfinite, Channel.ofNat, ← Fin.val_inj, Fin.val_ofNat]
    have hlt := c.isLt
    omega
  rw [channel?, Option.map_eq_some_iff, NotesChannel]
  refine exists_congr fun x => ?_
  rw [hread x]
  exact and_congr_right fun hx => hround hx.1

/-- A component is read as the alpha value that it notes. -/
theorem alpha?_eq_some_iff {cs : List Char} (h : IsPiece cs) {a : Single} :
    alpha? cs = some a ↔ NotesAlpha cs a := by
  have hunit : (fun (y : Double) => (y.scale 1 1).scale 1 100) = alphaPercentage :=
    funext fun y => congrArg (Binary.scale 1 100) (Binary.scale_one (by decide) y)
  have hread (x : Double) : component? 1 cs = some x ↔ NotesNumber alphaPercentage cs x := by
    rw [component?_eq_some_iff fun c hc => (h.2 c hc).1, hunit]
  rw [alpha?, Option.map_eq_some_iff, NotesAlpha]
  refine exists_congr fun x => ?_
  rw [hread x]
  exact and_congr_right fun hx => by rw [alphaOf_eq hx.1, eq_comm]

/-! ## Letter case of components -/

theorem component?_lower (unit : Nat) (cs : List Char) :
    component? unit (lower cs) = component? unit cs := by
  have hpercent := before?_lower
    (List.forall_mem_singleton.2 fun c => toLower_eq_iff (a := '%') (by decide) c) cs
  rw [component?, component?, hpercent, Binary.ofChars?_lower]
  cases before? ['%'] cs with
  | none => rfl
  | some percentage =>
      rw [Option.map_some]
      dsimp only
      rw [trim_lower, Binary.ofChars?_lower]

theorem channel?_lower (cs : List Char) : channel? (lower cs) = channel? cs := by
  rw [channel?, channel?, component?_lower]

theorem alpha?_lower (cs : List Char) : alpha? (lower cs) = alpha? cs := by
  rw [alpha?, alpha?, component?_lower]

/-! ## Finding the components -/

/-- The body in lower case has the components in lower case. -/
theorem IsBody.lower {slash : Bool} {pieces : List (List Char)} {cs : List Char}
    (h : IsBody slash pieces cs) : IsBody slash (pieces.map lower) (lower cs) := by
  cases h with
  | plain h => exact .plain h.lower
  | slash h hbefore hlast hafter =>
      rw [List.map_append, lower_append, lower_cons, lower_append, lower_append]
      exact .slash h.lower hbefore.lower_eq hlast.lower hafter.lower_eq

/-- **The components are found, however they are separated.** -/
theorem IsBody.components?_eq {slash : Bool} {pieces : List (List Char)} {cs : List Char}
    (h : IsBody slash pieces cs) : components? cs = arranged? slash pieces := by
  cases h with
  | plain h =>
      rw [components?, cut_of_notMem h.slash_notMem]
      dsimp only
      rw [h.split_eq]
      rcases pieces with _ | ⟨x, _ | ⟨y, _ | ⟨z, _ | ⟨w, _ | ⟨_, _⟩⟩⟩⟩⟩ <;> rfl
  | @slash pieces cs before last after h hbefore hlast hafter =>
      rw [components?, cut_append_cons h.slash_notMem]
      dsimp only
      rw [h.split_eq]
      have htrim := hlast.trim_between hbefore hafter
      rcases pieces with _ | ⟨x, _ | ⟨y, _ | ⟨z, _ | ⟨w, _ | ⟨_, _⟩⟩⟩⟩⟩
      case cons.cons.cons.nil =>
        dsimp only
        rw [htrim]
        rfl
      all_goals rfl

/-- The text between the name and the closing parenthesis is read as components. -/
theorem ofChars?_function {name : List Char} (hname : name ∈ ["rgb(".toList, "rgba(".toList])
    (body : List Char) : ofChars? (name ++ (body ++ [')'])) = ofFunctionBody? body := by
  have hbody : before? [')'] (body ++ [')']) = some body := before?_eq_some_iff.2 rfl
  have hafter : (after? "rgba(".toList (name ++ (body ++ [')']))).or
      (after? "rgb(".toList (name ++ (body ++ [')']))) = some (body ++ [')']) := by
    rcases List.mem_pair.1 hname with rfl | rfl <;> rfl
  have hhash : after? ['#'] (name ++ (body ++ [')'])) = none := by
    rcases List.mem_pair.1 hname with rfl | rfl <;> rfl
  have hword : name ++ (body ++ [')']) ≠ "transparent".toList := by
    rcases List.mem_pair.1 hname with rfl | rfl <;> exact fun heq => by cases heq
  rw [ofChars?, if_neg hword, hhash]
  dsimp only
  rw [hafter, Option.bind_some, hbody, Option.bind_some]

/-- What is read depends on the components alone. -/
theorem ofFunctionBody?_congr {body body' : List Char} (h : components? body' = components? body) :
    ofFunctionBody? body' = ofFunctionBody? body := by
  rw [ofFunctionBody?, ofFunctionBody?, h]

/-- The components are read alike in any letter case. -/
theorem IsBody.ofFunctionBody?_lower {slash : Bool} {pieces : List (List Char)} {body : List Char}
    (h : IsBody slash pieces body) : ofFunctionBody? (Text.lower body) = ofFunctionBody? body := by
  rw [ofFunctionBody?, ofFunctionBody?, h.components?_eq, h.lower.components?_eq]
  rcases pieces with _ | ⟨x, _ | ⟨y, _ | ⟨z, _ | ⟨w, _ | ⟨_, _⟩⟩⟩⟩⟩ <;> cases slash <;>
    simp [arranged?, channel?_lower, alpha?_lower]

/-- The text of a functional notation is read as its components. -/
theorem IsFunction.exists_body {slash : Bool} {pieces : List (List Char)} {text : String}
    (h : IsFunction slash pieces text) :
    ∃ body, IsBody slash pieces body ∧ parse? text = ofFunctionBody? body := by
  obtain ⟨before, name, body, after, hbefore, hafter, hname, hbody, htext⟩ := h
  refine ⟨body, hbody, ?_⟩
  have hkept : Text.lower (name ++ (body ++ [')'])) = name ++ (Text.lower body ++ [')']) := by
    rw [lower_append, lower_append]
    rcases List.mem_pair.1 hname with rfl | rfl <;> rfl
  have hfirst : ∀ c ∈ (name ++ (Text.lower body ++ [')'])).head?, isBlank c = false := by
    rcases List.mem_pair.1 hname with rfl | rfl <;> rintro c ⟨⟩ <;> rfl
  have hlast : ∀ c ∈ (name ++ (Text.lower body ++ [')'])).getLast?, isBlank c = false := by
    rw [← List.append_assoc, List.getLast?_concat]
    rintro c ⟨⟩
    rfl
  have htrim : trim (Text.lower text.toList) = name ++ (Text.lower body ++ [')']) := by
    rw [htext, lower_append, lower_append, hkept]
    exact trim_between hbefore.lower_eq hafter.lower_eq hfirst hlast
  rw [parse?, ← trim_lower, htrim, ofChars?_function hname, hbody.ofFunctionBody?_lower]

/-! ## Colors -/

/-- A color is read where each of its parts is. -/
theorem bind_channels_eq_some_iff {x y z : List Char} {alpha : Option Single} {color : Rgba} :
    (do
      let a ← alpha
      return (⟨← channel? x, ← channel? y, ← channel? z, a⟩ : Rgba)) = some color ↔
    channel? x = some color.red ∧ channel? y = some color.green ∧ channel? z = some color.blue ∧
      alpha = some color.alpha := by
  obtain ⟨red, green, blue, a⟩ := color
  cases alpha <;> cases channel? x <;> cases channel? y <;> cases channel? z <;> simp

/-- Three components note an opaque color. -/
theorem notesColor_three_iff {x y z : List Char} {color : Rgba} :
    NotesColor [x, y, z] color ↔ NotesChannel x color.red ∧ NotesChannel y color.green ∧
      NotesChannel z color.blue ∧ Binary.ofInt .single 1 = color.alpha := by
  constructor
  · rintro ⟨hx, hy, hz⟩
    exact ⟨hx, hy, hz, rfl⟩
  · obtain ⟨red, green, blue, alpha⟩ := color
    rintro ⟨hx, hy, hz, rfl⟩
    exact .three hx hy hz

/-- The fourth component notes the alpha value. -/
theorem notesColor_four_iff {x y z w : List Char} {color : Rgba} :
    NotesColor [x, y, z, w] color ↔ NotesChannel x color.red ∧ NotesChannel y color.green ∧
      NotesChannel z color.blue ∧ NotesAlpha w color.alpha := by
  constructor
  · rintro (_ | ⟨hx, hy, hz, hw⟩)
    exact ⟨hx, hy, hz, hw⟩
  · rintro ⟨hx, hy, hz, hw⟩
    exact .four hx hy hz hw

/-- The pieces of a body. -/
theorem IsBody.isPiece {slash : Bool} {pieces : List (List Char)} {cs : List Char}
    (h : IsBody slash pieces cs) : ∀ piece ∈ pieces, IsPiece piece := by
  cases h with
  | plain h => exact h.isPiece
  | slash h _ hlast _ =>
      intro piece hpiece
      rcases List.mem_append.1 hpiece with hpiece | hpiece
      · exact h.isPiece piece hpiece
      · rwa [List.mem_singleton.1 hpiece]

/-- A body is read as the color that its components note. -/
theorem IsBody.ofFunctionBody?_eq_some_iff {slash : Bool} {pieces : List (List Char)}
    {body : List Char} (h : IsBody slash pieces body) {color : Rgba} :
    ofFunctionBody? body = some color ↔
      (slash = true → pieces.length = 4) ∧ NotesColor pieces color := by
  have hpieces := h.isPiece
  rw [ofFunctionBody?, h.components?_eq]
  rcases pieces with _ | ⟨x, _ | ⟨y, _ | ⟨z, _ | ⟨w, _ | ⟨v, pieces⟩⟩⟩⟩⟩
  case cons.cons.cons.nil =>
    simp only [List.forall_mem_cons] at hpieces
    obtain ⟨hx, hy, hz, -⟩ := hpieces
    cases slash with
    | true => simp [arranged?]
    | false =>
        refine (@bind_channels_eq_some_iff x y z (some (Binary.ofInt .single 1)) color).trans ?_
        rw [channel?_eq_some_iff hx, channel?_eq_some_iff hy, channel?_eq_some_iff hz,
          Option.some_inj, notesColor_three_iff]
        simp
  case cons.cons.cons.cons.nil =>
    simp only [List.forall_mem_cons] at hpieces
    obtain ⟨hx, hy, hz, hw, -⟩ := hpieces
    have harranged : arranged? slash [x, y, z, w] = some (x, y, z, some w) := by cases slash <;> rfl
    rw [harranged]
    refine (@bind_channels_eq_some_iff x y z (alpha? w) color).trans ?_
    rw [channel?_eq_some_iff hx, channel?_eq_some_iff hy, channel?_eq_some_iff hz,
      alpha?_eq_some_iff hw, notesColor_four_iff]
    simp
  -- fewer than three or more than four pieces are not arranged, and note no color
  all_goals
    constructor
    · intro hread
      cases slash <;> cases hread
    · rintro ⟨-, hcolor⟩
      cases hcolor

/-- A component notes a channel where it notes a number. -/
theorem exists_notesChannel_iff {cs : List Char} :
    (∃ c, NotesChannel cs c) ↔ ∃ x, NotesNumber channelPercentage cs x := by
  constructor
  · rintro ⟨c, x, hx, -⟩
    exact ⟨x, hx⟩
  · rintro ⟨x, hx⟩
    have hlt : (max 0 (min 255 (roundAway x.value))).toNat < 256 := by omega
    exact ⟨⟨_, hlt⟩, x, hx, by dsimp only; omega⟩

/-- A component notes an alpha value where it notes a number. -/
theorem exists_notesAlpha_iff {cs : List Char} :
    (∃ a, NotesAlpha cs a) ↔ ∃ x, NotesNumber alphaPercentage cs x := by
  constructor
  · rintro ⟨a, x, hx, -⟩
    exact ⟨x, hx⟩
  · rintro ⟨x, hx⟩
    exact ⟨_, x, hx, rfl⟩

/-- Components note a color where each of them notes a number. -/
theorem exists_notesColor_iff {channels : List (List Char)} (hlength : channels.length = 3)
    (alpha : Option (List Char)) : (∃ color, NotesColor (channels ++ alpha.toList) color) ↔
      (∀ cs ∈ channels, ∃ x, NotesNumber channelPercentage cs x) ∧
        ∀ cs ∈ alpha, ∃ x, NotesNumber alphaPercentage cs x := by
  obtain ⟨x, y, z, rfl⟩ := List.length_eq_three.1 hlength
  simp only [List.forall_mem_cons, List.not_mem_nil, ← exists_notesChannel_iff, ← exists_notesAlpha_iff]
  constructor
  · rintro ⟨color, hcolor⟩
    cases alpha with
    | none =>
        obtain ⟨hx, hy, hz, -⟩ := notesColor_three_iff.1 hcolor
        exact ⟨⟨⟨_, hx⟩, ⟨_, hy⟩, ⟨_, hz⟩, by simp⟩, by simp⟩
    | some w =>
        obtain ⟨hx, hy, hz, hw⟩ := notesColor_four_iff.1 hcolor
        refine ⟨⟨⟨_, hx⟩, ⟨_, hy⟩, ⟨_, hz⟩, by simp⟩, ?_⟩
        rintro cs ⟨⟩
        exact ⟨_, hw⟩
  · rintro ⟨⟨⟨red, hx⟩, ⟨green, hy⟩, ⟨blue, hz⟩, -⟩, hw⟩
    cases alpha with
    | none => exact ⟨_, .three hx hy hz⟩
    | some w =>
        obtain ⟨a, hw⟩ := hw w rfl
        exact ⟨_, .four hx hy hz hw⟩

/-- Where the components are the same up to letter case, so is their arrangement: with four of them a
slash is no matter. -/
theorem arranged?_congr {slash slash' : Bool} {pieces pieces' : List (List Char)}
    (hpieces : pieces'.map lower = pieces.map lower) (hslash : slash' = slash ∨ pieces.length = 4) :
    arranged? slash' (pieces'.map lower) = arranged? slash (pieces.map lower) := by
  rw [hpieces]
  rcases hslash with rfl | hlength
  · rfl
  · obtain ⟨x, y, z, w, rfl⟩ : ∃ x y z w, pieces = [x, y, z, w] := by
      rcases pieces with _ | ⟨x, _ | ⟨y, _ | ⟨z, _ | ⟨w, _ | ⟨_, _⟩⟩⟩⟩⟩
      case cons.cons.cons.cons.nil => exact ⟨x, y, z, w, rfl⟩
      all_goals simp at hlength
    cases slash <;> cases slash' <;> rfl

/-- **A functional notation notes what its components note**, whatever separates them, and reading it by
places is never stopped. -/
theorem parse?_function (text : String) : readAt text = .done (parse? text) ∧
    ∀ slash pieces, IsFunction slash pieces text →
      -- another notation with the same components, up to letter case, notes the same
      (∀ slash' pieces' text', IsFunction slash' pieces' text' →
        pieces'.map lower = pieces.map lower → slash' = slash ∨ pieces.length = 4 →
        parse? text' = parse? text) ∧
      -- the color is the one that three components note, or four
      (∀ color, parse? text = some color ↔
        (slash = true → pieces.length = 4) ∧ NotesColor pieces color) ∧
      -- and there is one where each component notes a number
      (∀ channels, ∀ alpha : Option (List Char), pieces = channels ++ alpha.toList →
        channels.length = 3 → (slash = true → alpha.isSome = true) →
        ((parse? text).isSome = true ↔ (∀ cs ∈ channels, ∃ x, NotesNumber channelPercentage cs x) ∧
          ∀ cs ∈ alpha, ∃ x, NotesNumber alphaPercentage cs x)) ∧
      -- another number of components notes none
      (pieces.length ∉ [3, 4] ∨ slash = true ∧ pieces.length ≠ 4 → parse? text = none) := by
  refine ⟨readAt_eq text, fun slash pieces h => ?_⟩
  obtain ⟨body, hbody, hparse⟩ := h.exists_body
  have hcolor (color : Rgba) : parse? text = some color ↔
      (slash = true → pieces.length = 4) ∧ NotesColor pieces color := by
    rw [hparse, hbody.ofFunctionBody?_eq_some_iff]
  refine ⟨?_, hcolor, ?_, ?_⟩
  · intro slash' pieces' text' h' hpieces hslash
    obtain ⟨body', hbody', hparse'⟩ := h'.exists_body
    have harranged : components? (Text.lower body') = components? (Text.lower body) := by
      rw [hbody'.lower.components?_eq, hbody.lower.components?_eq, arranged?_congr hpieces hslash]
    rw [hparse', hparse, ← hbody'.ofFunctionBody?_lower, ← hbody.ofFunctionBody?_lower,
      ofFunctionBody?_congr harranged]
  · rintro channels alpha rfl hlength hslash
    have hshape : slash = true → (channels ++ alpha.toList).length = 4 := by
      intro htrue
      obtain ⟨w, rfl⟩ := Option.isSome_iff_exists.1 (hslash htrue)
      simp [hlength]
    rw [← exists_notesColor_iff hlength, Option.isSome_iff_exists]
    exact exists_congr fun color => (hcolor color).trans (and_iff_right hshape)
  · intro hcount
    refine Option.eq_none_iff_forall_ne_some.2 fun color heq => ?_
    obtain ⟨hfour, hnotes⟩ := (hcolor color).1 heq
    have hlength : pieces.length ∈ [3, 4] := by cases hnotes <;> simp
    rcases hcount with hcount | ⟨htrue, hcount⟩
    · exact hcount hlength
    · exact hcount (hfour htrue)

/-- Four components, separated by commas and a slash with blanks around them. -/
def slashSample : String := "\u00a0RGBA( 10%,20.5 , 3e1 /\t50%)\n"

/-- The same components, separated by blanks, in another letter case. -/
def blankSample : String := "rgb(10% 20.5  3E1 50% )"

/-- The components of both. -/
def samplePieces : List (List Char) := ["10%".toList, "20.5".toList, "3e1".toList, "50%".toList]

theorem isFunction_slashSample : IsFunction true samplePieces slashSample := by
  have hchannels : Separated ["10%".toList, "20.5".toList, "3e1".toList] " 10%,20.5 , 3e1 ".toList :=
    .inl (@CommaSeparated.cons [' '] _ [] _ _ (by decide) (by decide) (by decide)
      (@CommaSeparated.cons [] _ [' '] _ _ (by decide) (by decide) (by decide)
        (@CommaSeparated.one [' '] _ [' '] (by decide) (by decide) (by decide))))
  exact ⟨['\u00a0'], "rgba(".toList, " 10%,20.5 , 3e1 /\t50%".toList, ['\n'], by decide, by decide,
    by decide, @IsBody.slash _ _ ['\t'] _ [] hchannels (by decide) (by decide) (by decide), by decide⟩

theorem isFunction_blankSample : IsFunction false samplePieces blankSample := by
  have hgap (cs : List Char) : ∀ c ∈ (' ' :: cs).head?, isBlank c = true := by
    rintro c ⟨⟩
    rfl
  have hchannels : Separated samplePieces "10% 20.5  3e1 50% ".toList :=
    .inr (@BlankSeparated.cons [] _ _ _ (by decide) (by decide) (hgap _)
      (@BlankSeparated.cons [' '] _ _ _ (by decide) (by decide) (hgap _)
        (@BlankSeparated.cons [' ', ' '] _ _ _ (by decide) (by decide) (hgap _)
          (@BlankSeparated.cons [' '] _ [' '] _ (by decide) (by decide) (hgap _)
            (.nil (by decide))))))
  exact ⟨[], "rgb(".toList, "10% 20.5  3e1 50% ".toList, [], by decide, by decide, by decide,
    .plain hchannels, by decide⟩

/-- Both note the same color. -/
theorem parse?_function_samples :
    IsFunction true samplePieces slashSample ∧ IsFunction false samplePieces blankSample ∧
      parse? blankSample = parse? slashSample ∧
      parse? slashSample = some ⟨26, 21, 30, Binary.round .single false 1 2⟩ :=
  ⟨isFunction_slashSample, isFunction_blankSample,
    ((parse?_function slashSample).2 true samplePieces isFunction_slashSample).1 false samplePieces
      blankSample isFunction_blankSample rfl (.inr rfl),
    by decide +kernel⟩

end CanvasExport.Rgba
