import CanvasExport.Proofs.JsonText
/-!
# Compact texts

Control characters in strings are written with others, and a compact text has no blanks between its
tokens.  So it is one line, whatever texts are in the value (`onOneLine_chars`).
-/

namespace CanvasExport.Json

/-- There is no control character, and so no line break, among the characters. -/
def OnOneLine (cs : List Char) : Prop := ∀ c ∈ cs, 0x20 ≤ c.toNat

instance (cs : List Char) : Decidable (OnOneLine cs) :=
  List.decidableBAll (fun c : Char => 0x20 ≤ c.toNat) cs

theorem OnOneLine.nil : OnOneLine [] := List.forall_mem_nil _

theorem OnOneLine.append {cs ds : List Char} (hcs : OnOneLine cs) (hds : OnOneLine ds) :
    OnOneLine (cs ++ ds) := List.forall_mem_append.2 ⟨hcs, hds⟩

theorem OnOneLine.cons {c : Char} {cs : List Char} (hc : 0x20 ≤ c.toNat) (hcs : OnOneLine cs) :
    OnOneLine (c :: cs) := List.forall_mem_cons.2 ⟨hc, hcs⟩

theorem OnOneLine.newline_notMem {cs : List Char} (h : OnOneLine cs) : '\n' ∉ cs ∧ '\r' ∉ cs :=
  ⟨fun hmem => absurd (h _ hmem) (by decide), fun hmem => absurd (h _ hmem) (by decide)⟩

/-- No control character belongs to a number. -/
theorem Phase.le_toNat_of_next? {phase next : Phase} {c : Char} (h : phase.next? c = some next) :
    0x20 ≤ c.toNat := by
  by_contra hcontrol
  have hdigit : c.isDigit = false := by
    rw [← Bool.not_eq_true]
    intro hdigit
    have hcode : 48 ≤ c.toNat ∧ c.toNat ≤ 57 := Char.isDigit_iff_toNat.1 hdigit
    omega
  have hne (d : Char) (hd : 0x20 ≤ d.toNat) : c ≠ d := by
    rintro rfl
    exact hcontrol hd
  have hnone : phase.next? c = none := by
    cases phase <;>
      simp [next?, next?.afterWhole, next?.afterFraction, hdigit, hne '0' (by decide),
        hne '+' (by decide), hne '-' (by decide), hne '.' (by decide), hne 'e' (by decide),
        hne 'E' (by decide)]
  rw [hnone] at h
  cases h

theorem Phase.le_toNat_of_after? {phase last : Phase} {cs : List Char}
    (h : phase.after? cs = some last) : ∀ c ∈ cs, 0x20 ≤ c.toNat := by
  induction cs generalizing phase with
  | nil => nofun
  | cons c cs ih =>
      rw [after?_cons] at h
      obtain ⟨next, hnext, hcs⟩ := Option.bind_eq_some_iff.1 h
      exact List.forall_mem_cons.2 ⟨le_toNat_of_next? hnext, ih hcs⟩

theorem IsNumeral.onOneLine {literal : List Char} (h : IsNumeral literal) : OnOneLine literal := by
  obtain ⟨negative, body, last, rfl, hbody, -⟩ := h
  have hsign : OnOneLine (Decimal.signChars negative) := by cases negative <;> decide
  exact hsign.append (Phase.le_toNat_of_after? hbody)

/-- A control character in a string is written with others. -/
theorem onOneLine_escapeChar (c : Char) : OnOneLine (escapeChar c) := by
  unfold escapeChar
  split_ifs with hquote hslash hb hf hn hr ht hcontrol
  · decide
  · decide
  · decide
  · decide
  · decide
  · decide
  · decide
  · have hdigit : ∀ n : Fin 16, 0x20 ≤ (Nat.digitChar n).toNat := by decide
    have hhigh := hdigit ⟨c.toNat / 16, by omega⟩
    have hlow := hdigit ⟨c.toNat % 16, by omega⟩
    have hprefix : OnOneLine ['\\', 'u', '0', '0'] := by decide
    exact hprefix.append (.cons hhigh (.cons hlow .nil))
  · exact OnOneLine.cons (by omega) .nil

theorem onOneLine_stringChars (s : String) : OnOneLine (stringChars s) := by
  have hchars : OnOneLine (s.toList.flatMap escapeChar) :=
    List.forall_mem_flatMap.2 fun c _ => onOneLine_escapeChar c
  exact .cons (by decide) (hchars.append (.cons (by decide) .nil))

theorem onOneLine_member (key : String) {value : List Char} (h : OnOneLine value) :
    OnOneLine (stringChars key ++ [':'] ++ value) :=
  ((onOneLine_stringChars key).append (.cons (by decide) .nil)).append h

theorem onOneLine_itemsChars {items : List Json}
    (h : ∀ v ∈ items, ∀ level, OnOneLine (v.chars .compact level)) (level : Nat) :
    OnOneLine (itemsChars .compact level items) := by
  induction items with
  | nil => exact .cons (by decide) .nil
  | cons item items ih =>
      obtain ⟨hitem, hitems⟩ := List.forall_mem_cons.1 h
      exact .cons (by decide) ((hitem (level + 1)).append (ih hitems))

theorem onOneLine_membersChars {members : List (String × Json)}
    (h : ∀ m ∈ members, ∀ level, OnOneLine (m.2.chars .compact level)) (level : Nat) :
    OnOneLine (membersChars .compact level members) := by
  induction members with
  | nil => exact .cons (by decide) .nil
  | cons m members ih =>
      obtain ⟨hvalue, hmembers⟩ := List.forall_mem_cons.1 h
      have hmember := onOneLine_member m.1 (hvalue (level + 1))
      exact .cons (by decide) (hmember.append (ih hmembers))

/-- **A compact text is one line.** -/
theorem onOneLine_chars {v : Json} (hv : IsWritable v) (level : Nat) :
    OnOneLine (v.chars .compact level) := by
  induction hv generalizing level with
  | null => exact (by decide : OnOneLine ['n', 'u', 'l', 'l'])
  | bool b =>
      cases b with
      | false => exact (by decide : OnOneLine ['f', 'a', 'l', 's', 'e'])
      | true => exact (by decide : OnOneLine ['t', 'r', 'u', 'e'])
  | number h => exact h.onOneLine
  | string s => exact onOneLine_stringChars s
  | @array items hitems ih =>
      cases items with
      | nil => exact (by decide : OnOneLine ['[', ']'])
      | cons item items =>
          obtain ⟨hitem, hitems⟩ := List.forall_mem_cons.1 ih
          exact .cons (by decide) ((hitem (level + 1)).append (onOneLine_itemsChars hitems level))
  | @object members hmembers ih =>
      cases members with
      | nil => exact (by decide : OnOneLine ['\x7b', '\x7d'])
      | cons m members =>
          obtain ⟨hvalue, hmembers⟩ := List.forall_mem_cons.1 ih
          have hmember := onOneLine_member m.1 (hvalue (level + 1))
          exact .cons (by decide) (hmember.append (onOneLine_membersChars hmembers level))

end CanvasExport.Json
