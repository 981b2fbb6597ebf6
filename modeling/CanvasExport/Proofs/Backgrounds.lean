import CanvasExport.Proofs.HexColor
import CanvasExport.Proofs.NumberText
import CanvasExport.Proofs.Representation
import CanvasExport.Proofs.Resolver
/-!
# The class for the background of a page

A page whose background notes a color has a class for the color: `bg-transparent` if nothing of it is
seen, and else that of its channels, whose form `#rrggbb` has a name in the palette or is its own token.
No two colors of the palette share a name, and no name begins with `#` as the other tokens do
(`Palette.token_inj`).  So two such pages have the same class exactly where both colors are not seen, or
both are and have the same channels, whatever the notations, the alpha values and the tokens at hand
(`Page.background_classes`).
-/

namespace CanvasExport

/-! ## Tokens of the palette -/

namespace Palette

/-- The text of a color as a page requests it: a hexadecimal form, or the word for what is not seen. -/
def IsPlain (color : String) : Prop :=
  normal color = color ∧ (color = "transparent" ∨ color.toList.head? = some '#')

theorem isPlain_transparent : IsPlain "transparent" := ⟨by decide, .inl rfl⟩

/-- No two colors of the palette have the same name. -/
theorem builtin?_inj {a b name : String} (ha : builtin? a = some name) (hb : builtin? b = some name) :
    a = b := by
  have hnodup : (colors.map Prod.snd).Nodup := by decide +kernel
  have hentry := List.inj_on_of_nodup_map hnodup (Dict.mem_of_lookup_eq_some ha)
    (Dict.mem_of_lookup_eq_some hb) rfl
  exact congrArg Prod.fst hentry

/-- No name begins with `#`. -/
theorem head?_of_builtin? {color name : String} (h : builtin? color = some name) :
    name.toList.head? ≠ some '#' := by
  have hall : ∀ entry ∈ colors, entry.2.toList.head? ≠ some '#' := by decide +kernel
  exact hall (color, name) (Dict.mem_of_lookup_eq_some h)

/-- A color that the palette lacks is its own token, and begins with `#`. -/
theorem IsPlain.token_of_builtin?_eq_none {color : String} (h : IsPlain color)
    (hbuiltin : builtin? color = none) : token color = color ∧ color.toList.head? = some '#' := by
  refine ⟨by rw [token, h.1, hbuiltin, Option.getD_none], h.2.resolve_left ?_⟩
  rintro rfl
  cases hbuiltin

/-- **Different colors have different tokens**, be they in the palette or not. -/
theorem token_inj {a b : String} (ha : IsPlain a) (hb : IsPlain b) : token a = token b ↔ a = b := by
  refine ⟨fun h => ?_, congrArg token⟩
  have hname {color name : String} (hcolor : IsPlain color) (hbuiltin : builtin? color = some name) :
      token color = name := by rw [token, hcolor.1, hbuiltin, Option.getD_some]
  -- a name of the palette is not the token of a color that the palette lacks
  have hmixed {color other name : String} (hcolor : IsPlain color) (hother : IsPlain other)
      (hbuiltin : builtin? color = some name) (hlacks : builtin? other = none) :
      token color ≠ token other := by
    obtain ⟨htoken, hhead⟩ := hother.token_of_builtin?_eq_none hlacks
    rw [hname hcolor hbuiltin, htoken]
    rintro rfl
    exact head?_of_builtin? hbuiltin hhead
  cases hbuiltin : builtin? a with
  | some name =>
      cases hbuiltin' : builtin? b with
      | some name' =>
          rw [hname ha hbuiltin, hname hb hbuiltin'] at h
          obtain rfl : name = name' := h
          exact builtin?_inj hbuiltin hbuiltin'
      | none => exact absurd h (hmixed ha hb hbuiltin hbuiltin')
  | none =>
      cases hbuiltin' : builtin? b with
      | some name' => exact absurd h.symm (hmixed hb ha hbuiltin' hbuiltin)
      | none =>
          rwa [(ha.token_of_builtin?_eq_none hbuiltin).1,
            (hb.token_of_builtin?_eq_none hbuiltin').1] at h

end Palette

/-! ## Colors of backgrounds -/

namespace Rgba

/-- The text under which a color is requested as a background. -/
def background (c : Rgba) : String := if c.isTransparent then "transparent" else c.hex

/-- Nothing of both colors is seen, or both are seen and have the same channels. -/
def SameBackground (c c' : Rgba) : Prop :=
  c.isTransparent = true ∧ c'.isTransparent = true ∨
    c.isTransparent = false ∧ c'.isTransparent = false ∧
      c.red = c'.red ∧ c.green = c'.green ∧ c.blue = c'.blue

instance (c c' : Rgba) : Decidable (SameBackground c c') := inferInstanceAs (Decidable (_ ∨ _))

/-- The form `#rrggbb` tells the channels. -/
theorem hex_inj {c c' : Rgba} :
    c.hex = c'.hex ↔ c.red = c'.red ∧ c.green = c'.green ∧ c.blue = c'.blue := by
  constructor
  · intro h
    have hread : some (solid c.red c.green c.blue) = some (solid c'.red c'.green c'.blue) := by
      rw [← parse?_hexChars, ← parse?_hexChars]
      exact congrArg parse? h
    have hsolid := Option.some_inj.1 hread
    simpa [solid] using hsolid
  · rintro ⟨hred, hgreen, hblue⟩
    rw [hex, hex, hred, hgreen, hblue]

theorem head?_hex (c : Rgba) : c.hex.toList.head? = some '#' := by
  rw [hex, String.toList_ofList, hexChars, List.head?_cons]

theorem hex_ne_transparent (c : Rgba) : c.hex ≠ "transparent" := by
  intro h
  have hhead := c.head?_hex
  rw [h] at hhead
  revert hhead
  decide

/-- The form `#rrggbb` is looked up as it is. -/
theorem isPlain_hex (c : Rgba) : Palette.IsPlain c.hex := by
  refine ⟨?_, .inr c.head?_hex⟩
  obtain ⟨ds, hchars, -⟩ := exists_hexChars_eq c.red c.green c.blue
  rw [Palette.normal, hex, String.toList_ofList, hchars, lower_trim_hash]

theorem isPlain_background (c : Rgba) : Palette.IsPlain c.background := by
  unfold background
  split
  · exact Palette.isPlain_transparent
  · exact c.isPlain_hex

/-- A color is requested as not seen exactly where nothing of it is seen. -/
theorem background_eq_transparent_iff {c : Rgba} :
    c.background = "transparent" ↔ c.isTransparent = true := by
  cases htransparent : c.isTransparent <;> simp [background, htransparent, hex_ne_transparent]

/-- Two colors are requested alike exactly where they are the same as backgrounds. -/
theorem background_eq_iff {c c' : Rgba} : c.background = c'.background ↔ SameBackground c c' := by
  have hne := c.hex_ne_transparent
  have hne' := c'.hex_ne_transparent.symm
  cases htransparent : c.isTransparent <;> cases htransparent' : c'.isTransparent <;>
    simp [background, SameBackground, htransparent, htransparent', hex_inj, hne, hne']

end Rgba

/-! ## Pages -/

/-- The color of a property is the one that its text notes; the text of a number notes none. -/
theorem Node.computedColor?_eq_bind (n : Node) (property : String) :
    n.computedColor? property = (n.computedText? property).bind Rgba.parse? := by
  unfold computedColor? computedText?
  cases n.computed? property with
  | none => rfl
  | some value =>
      cases value with
      | number x =>
          rw [Option.map_some, Option.bind_some, StyleValue.toText, Rgba.parse?_toText]
      | text s => rfl

/-- A background that notes a color is requested as the color. -/
theorem Node.backgroundColor_of_parse? {n : Node} {text : String} {c : Rgba}
    (htext : n.computedText? "background-color" = some text) (hc : Rgba.parse? text = some c) :
    n.backgroundColor = c.background := by
  have hcolor : n.computedColor? "background-color" = some c := by
    rw [computedColor?_eq_bind, htext, Option.bind_some, hc]
  rw [backgroundColor, hcolor]
  rfl

/-- A page that is exported, whatever the tokens at hand, has the classes of its node. -/
theorem Page.classes_of_resolve {registry : Registry} {title : String} {n : Node} {t u : Tokens}
    {p : Page} (h : (resolve registry title n).run.run t = (.ok p, u)) :
    p.classes = ["w-" ++ Spacing.token (Pixels.round (n.computedPixels? "width")),
      "bg-" ++ Palette.token n.backgroundColor] := by
  rw [← on_ofNode, Walk.run_on, Prod.mk.injEq] at h
  exact (represents_of_ok h.1).classes

/-- **The classes for backgrounds.**  Two pages whose backgrounds note colors, exported with any tokens
at hand, have the same class for the background exactly where both colors are fully transparent, or both
are not and have the same channels.  The class is `bg-transparent` exactly for a fully transparent
color. -/
theorem Page.background_classes {registry registry' : Registry} {title title' : String} {n n' : Node}
    {text text' : String} {c c' : Rgba} {t t' u u' : Tokens} {p p' : Page}
    (htext : n.computedText? "background-color" = some text) (hc : Rgba.parse? text = some c)
    (htext' : n'.computedText? "background-color" = some text') (hc' : Rgba.parse? text' = some c')
    (h : (resolve registry title n).run.run t = (.ok p, u))
    (h' : (resolve registry' title' n').run.run t' = (.ok p', u')) :
    ∃ width background width' background',
      p.classes = ["w-" ++ width, "bg-" ++ background] ∧
      p'.classes = ["w-" ++ width', "bg-" ++ background'] ∧
      ("bg-" ++ background = "bg-" ++ background' ↔ c.SameBackground c') ∧
      ("bg-" ++ background = "bg-transparent" ↔ c.isTransparent = true) ∧
      ("bg-" ++ background' = "bg-transparent" ↔ c'.isTransparent = true) := by
  have hclasses := classes_of_resolve h
  have hclasses' := classes_of_resolve h'
  rw [Node.backgroundColor_of_parse? htext hc] at hclasses
  rw [Node.backgroundColor_of_parse? htext' hc'] at hclasses'
  have htransparent (c : Rgba) :
      "bg-" ++ Palette.token c.background = "bg-transparent" ↔ c.isTransparent = true := by
    have hword : "bg-transparent" = "bg-" ++ Palette.token "transparent" := by decide
    rw [hword, String.append_right_inj, Palette.token_inj c.isPlain_background
      Palette.isPlain_transparent, Rgba.background_eq_transparent_iff]
  refine ⟨_, _, _, _, hclasses, hclasses', ?_, htransparent c, htransparent c'⟩
  rw [String.append_right_inj, Palette.token_inj c.isPlain_background c'.isPlain_background,
    Rgba.background_eq_iff]

/-- A red of the palette in functional notation, and the same half transparent in capital digits. -/
theorem Page.background_classes_red :
    let n := (Node.page "a").withComputed "background-color" (.text "rgb(239, 68, 68)")
    let n' := (Node.page "b").withComputed "background-color" (.text " #EF444480 ")
    let t := Tokens.register {} (.color "#ef4444ff")
    ∃ p p' u u', (resolve .launch "Home" n).run.run {} = (.ok p, u) ∧
      (resolve .launch "About" n').run.run t = (.ok p', u') ∧
      p.classes[1]? = p'.classes[1]? ∧ p.classes[1]? ≠ some "bg-transparent" := by
  intro n n' t
  set c : Rgba := .solid 239 68 68
  set c' : Rgba := ⟨239, 68, 68, Rgba.alphaOfChannel 128⟩
  have htext : n.computedText? "background-color" = some "rgb(239, 68, 68)" := rfl
  have hc : Rgba.parse? "rgb(239, 68, 68)" = some c := by decide +kernel
  have htext' : n'.computedText? "background-color" = some " #EF444480 " := rfl
  have hc' : Rgba.parse? " #EF444480 " = some c' := by decide +kernel
  obtain ⟨p, u, h⟩ : ∃ p u, (resolve .launch "Home" n).run.run {} = (.ok p, u) := ⟨_, _, rfl⟩
  obtain ⟨p', u', h'⟩ : ∃ p' u', (resolve .launch "About" n').run.run t = (.ok p', u') :=
    ⟨_, _, rfl⟩
  obtain ⟨_, background, _, background', hclasses, hclasses', hsame, htransparent, -⟩ :=
    background_classes htext hc htext' hc' h h'
  have hseen : c.SameBackground c' := by decide +kernel
  refine ⟨p, p', u, u', h, h', ?_, ?_⟩
  · simp [hclasses, hclasses', hsame.2 hseen]
  · have hne : ¬ c.isTransparent = true := by decide
    simp [hclasses, mt htransparent.1 hne]

end CanvasExport
