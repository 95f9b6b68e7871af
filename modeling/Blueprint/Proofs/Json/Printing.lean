import Blueprint.Json.Reader

/-!
# Printing at a spacing

Both printers are one printer at two spacings: `Spacing.render` puts blanks before the items of a
container, before its closing bracket and after the colons of an object. What is proved about
`render` at every spacing holds of `compact` and of `pretty`.
-/

namespace Blueprint.Json

/-- The blanks of a printer, by the depth of the container that they stand in. -/
structure Spacing where
  item : Nat → List Char
  close : Nat → List Char
  colon : List Char
  isSpace_item : ∀ d, ∀ c ∈ item d, isSpace c
  isSpace_close : ∀ d, ∀ c ∈ close d, isSpace c
  isSpace_colon : ∀ c ∈ colon, isSpace c

namespace Spacing

mutual

def render (l : Spacing) (d : Nat) : Value → List Char
  | .null => ['n', 'u', 'l', 'l']
  | .bool true => ['t', 'r', 'u', 'e']
  | .bool false => ['f', 'a', 'l', 's', 'e']
  | .number n => n.chars
  | .string s => quoted s
  | .array [] => ['[', ']']
  | .array (v :: rest) =>
    '[' :: l.item d ++ render l (d + 1) v ++ renderItems l d rest ++ l.close d ++ [']']
  | .object [] => ['{', '}']
  | .object ((k, v) :: rest) =>
    '{' :: l.item d ++ quoted k ++ ':' :: l.colon ++ render l (d + 1) v ++
      renderMembers l d rest ++ l.close d ++ ['}']

def renderItems (l : Spacing) (d : Nat) : List Value → List Char
  | [] => []
  | v :: rest => ',' :: l.item d ++ render l (d + 1) v ++ renderItems l d rest

def renderMembers (l : Spacing) (d : Nat) : List Member → List Char
  | [] => []
  | (k, v) :: rest =>
    ',' :: l.item d ++ quoted k ++ ':' :: l.colon ++ render l (d + 1) v ++ renderMembers l d rest

end

def none : Spacing := ⟨fun _ => [], fun _ => [], [], by simp, by simp, by simp⟩

@[simp] theorem none_item (d : Nat) : none.item d = [] := rfl

@[simp] theorem none_close (d : Nat) : none.close d = [] := rfl

@[simp] theorem none_colon : none.colon = [] := rfl

theorem isSpace_newline (d : Nat) : ∀ c ∈ Value.newline d, isSpace c := by
  intro c hc
  simp only [Value.newline, List.mem_cons, List.mem_replicate] at hc
  rcases hc with rfl | ⟨_, rfl⟩ <;> decide

def lines : Spacing where
  item d := Value.newline (d + 1)
  close := Value.newline
  colon := [' ']
  isSpace_item d := isSpace_newline (d + 1)
  isSpace_close := isSpace_newline
  isSpace_colon c hc := by rw [List.mem_singleton.mp hc]; decide

@[simp] theorem lines_item (d : Nat) : lines.item d = Value.newline (d + 1) := rfl

@[simp] theorem lines_close (d : Nat) : lines.close d = Value.newline d := rfl

@[simp] theorem lines_colon : lines.colon = [' '] := rfl

mutual

theorem render_none (d : Nat) : (v : Value) → none.render d v = v.compactChars
  | .null | .bool true | .bool false | .number _ | .string _ => rfl
  | .array [] | .object [] => rfl
  | .array (v :: rest) => by
      have h := renderItems_none d (v :: rest) (by simp)
      simp only [renderItems, none_item, List.cons_append, List.cons.injEq] at h
      simp [render, Value.compactChars, ← h.2]
  | .object ((k, v) :: rest) => by
      have h := renderMembers_none d ((k, v) :: rest) (by simp)
      simp only [renderMembers, none_item, List.cons_append, List.cons.injEq] at h
      simp [render, Value.compactChars, ← h.2]

theorem renderItems_none (d : Nat) : (vs : List Value) → vs ≠ [] →
    none.renderItems d vs = ',' :: Value.compactItems vs
  | [v], _ => by simp [renderItems, Value.compactItems, render_none (d + 1) v]
  | v :: w :: rest, _ => by
      rw [renderItems, renderItems_none d (w :: rest) (by simp), render_none (d + 1) v]
      simp [Value.compactItems]

theorem renderMembers_none (d : Nat) : (ms : List Member) → ms ≠ [] →
    none.renderMembers d ms = ',' :: Value.compactMembers ms
  | [(k, v)], _ => by simp [renderMembers, Value.compactMembers, render_none (d + 1) v]
  | (k, v) :: m :: rest, _ => by
      rw [renderMembers, renderMembers_none d (m :: rest) (by simp), render_none (d + 1) v]
      simp [Value.compactMembers]

end

mutual

theorem render_lines (d : Nat) : (v : Value) → lines.render d v = v.prettyChars d
  | .null | .bool true | .bool false | .number _ | .string _ => rfl
  | .array [] | .object [] => rfl
  | .array (v :: rest) => by
      simp [render, Value.prettyChars, render_lines (d + 1) v, renderItems_lines d rest]
  | .object ((k, v) :: rest) => by
      simp [render, Value.prettyChars, render_lines (d + 1) v, renderMembers_lines d rest]

theorem renderItems_lines (d : Nat) : (vs : List Value) →
    lines.renderItems d vs = Value.prettyItems d vs
  | [] => rfl
  | v :: rest => by
      simp [renderItems, Value.prettyItems, render_lines (d + 1) v, renderItems_lines d rest]

theorem renderMembers_lines (d : Nat) : (ms : List Member) →
    lines.renderMembers d ms = Value.prettyMembers d ms
  | [] => rfl
  | (k, v) :: rest => by
      simp [renderMembers, Value.prettyMembers, render_lines (d + 1) v,
        renderMembers_lines d rest]

end

end Spacing

end Blueprint.Json
