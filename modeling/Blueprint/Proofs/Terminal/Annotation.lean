import Blueprint.Proofs.Event.Recovery
import Blueprint.Proofs.Text.Lines
import Blueprint.Terminal.Annotation
import Mathlib.Data.List.TakeDrop

/-!
# Annotations are read back

A build service takes an annotation for a command: two colons, a name, properties behind a space,
two colons again and the data. It parts the properties at commas, each of them at its first equals
sign, and undoes the escapes. `Command.read?` does the same, and finds in an annotation just what
the annotation was made of, whatever strings these were.
-/

namespace Blueprint.Terminal

/-- What a build service makes of a line. -/
structure Command where
  name : String
  properties : List (String × String)
  data : String
  deriving DecidableEq

/-- Undoes every escape. A percent sign without a known number stands for itself. -/
def unescape : List Char → List Char
  | [] => []
  | '%' :: '2' :: '5' :: rest => '%' :: unescape rest
  | '%' :: '0' :: 'D' :: rest => '\r' :: unescape rest
  | '%' :: '0' :: 'A' :: rest => '\n' :: unescape rest
  | '%' :: '3' :: 'A' :: rest => ':' :: unescape rest
  | '%' :: '2' :: 'C' :: rest => ',' :: unescape rest
  | c :: rest => c :: unescape rest

/-- What stands before and after the first two colons. -/
def cutColons : List Char → Option (List Char × List Char)
  | [] => none
  | ':' :: ':' :: rest => some ([], rest)
  | c :: rest => (cutColons rest).map fun (before, after) => (c :: before, after)

/-- A property, parted at its first equals sign. -/
def readProperty (cs : List Char) : String × String :=
  (String.ofList (cs.takeWhile (· ≠ '=')),
    String.ofList (unescape ((cs.dropWhile (· ≠ '=')).drop 1)))

def readProperties (cs : List Char) : List (String × String) :=
  if cs.isEmpty then [] else ((cs.drop 1).splitOn ',').map readProperty

namespace Command

/-- A command from what stands before and after its inner colons. -/
def ofParts (head data : List Char) : Command where
  name := String.ofList (head.takeWhile (· ≠ ' '))
  properties := readProperties (head.dropWhile (· ≠ ' '))
  data := String.ofList (unescape data)

def read? (line : String) : Option Command :=
  match line.toList with
  | ':' :: ':' :: rest => (cutColons rest).map fun (head, data) => ofParts head data
  | _ => none

def property? (c : Command) (key : String) : Option String :=
  (c.properties.find? (·.1 == key)).map (·.2)

end Command

/-! ### Escapes -/

theorem unescape_escapeData (c : Char) (rest : List Char) :
    unescape (escapeData c ++ rest) = c :: unescape rest := by
  unfold escapeData
  split
  · rfl
  · rfl
  · rfl
  next hpercent _ _ =>
    rw [List.singleton_append, unescape]
    all_goals exact fun _ h _ => hpercent h

theorem unescape_escapeProperty (c : Char) (rest : List Char) :
    unescape (escapeProperty c ++ rest) = c :: unescape rest := by
  unfold escapeProperty
  split
  · rfl
  · rfl
  · exact unescape_escapeData c rest

theorem unescape_escaped {f : Char → List Char}
    (hf : ∀ c rest, unescape (f c ++ rest) = c :: unescape rest) (s : String) :
    unescape (escaped f s).toList = s.toList := by
  rw [escaped, String.toList_ofList]
  induction s.toList with
  | nil => rfl
  | cons c cs ih => rw [List.flatMap_cons, hf, ih]

/-- Writes a code in place of a character. -/
def replace (c : Char) (code cs : List Char) : List Char :=
  cs.flatMap fun d => if d = c then code else [d]

/-- The escapes are the characters replaced one after the other, the percent sign first. -/
theorem flatMap_escapeData (cs : List Char) :
    cs.flatMap escapeData = replace '\n' ['%', '0', 'A']
      (replace '\r' ['%', '0', 'D'] (replace '%' ['%', '2', '5'] cs)) := by
  simp only [replace, List.flatMap_assoc]
  refine List.flatMap_congr fun c _ => ?_
  unfold escapeData
  split
  · rfl
  · rfl
  · rfl
  next hpercent hreturn hfeed =>
    rw [if_neg hpercent, List.flatMap_singleton, if_neg hreturn, List.flatMap_singleton,
      if_neg hfeed]

theorem flatMap_escapeProperty (cs : List Char) : cs.flatMap escapeProperty =
    replace ',' ['%', '2', 'C'] (replace ':' ['%', '3', 'A'] (cs.flatMap escapeData)) := by
  simp only [replace, List.flatMap_assoc]
  refine List.flatMap_congr fun c _ => ?_
  unfold escapeProperty
  split
  · rfl
  · rfl
  next hcolon hcomma =>
    unfold escapeData
    split
    · rfl
    · rfl
    · rfl
    · rw [List.flatMap_singleton, if_neg hcolon, List.flatMap_singleton, if_neg hcomma]

/-- What percent escapes are written with. -/
def codeChars : List Char := ['%', '0', '2', '3', '5', 'A', 'C', 'D']

theorem mem_escapeData {c d : Char} (h : d ∈ escapeData c) :
    d ∈ codeChars ∨ d = c ∧ c ≠ '\n' ∧ c ≠ '\r' := by
  unfold escapeData at h
  split at h
  · exact .inl ((by decide : ['%', '2', '5'] ⊆ codeChars) h)
  · exact .inl ((by decide : ['%', '0', 'D'] ⊆ codeChars) h)
  · exact .inl ((by decide : ['%', '0', 'A'] ⊆ codeChars) h)
  next _ hreturn hfeed => exact .inr ⟨List.mem_singleton.mp h, hfeed, hreturn⟩

theorem mem_escapeProperty {c d : Char} (h : d ∈ escapeProperty c) :
    d ∈ codeChars ∨ d = c ∧ c ≠ '\n' ∧ c ≠ '\r' ∧ c ≠ ':' ∧ c ≠ ',' := by
  unfold escapeProperty at h
  split at h
  · exact .inl ((by decide : ['%', '3', 'A'] ⊆ codeChars) h)
  · exact .inl ((by decide : ['%', '2', 'C'] ⊆ codeChars) h)
  next hcolon hcomma =>
    rcases mem_escapeData h with hcode | ⟨hd, hfeed, hreturn⟩
    · exact .inl hcode
    · exact .inr ⟨hd, hfeed, hreturn, hcolon, hcomma⟩

theorem mem_escaped {f : Char → List Char} {s : String} {d : Char}
    (h : d ∈ (escaped f s).toList) : ∃ c, d ∈ f c := by
  rw [escaped, String.toList_ofList, List.mem_flatMap] at h
  obtain ⟨c, -, hd⟩ := h
  exact ⟨c, hd⟩

/-- Characters that end neither the line nor its head. -/
def Enclosed (cs : List Char) : Prop := ∀ d ∈ cs, d ≠ '\n' ∧ d ≠ '\r' ∧ d ≠ ':'

instance : DecidablePred Enclosed := List.decidableBAll fun d => d ≠ '\n' ∧ d ≠ '\r' ∧ d ≠ ':'

theorem enclosed_codeChars : Enclosed codeChars := by decide

theorem Enclosed.append {cs ds : List Char} (hc : Enclosed cs) (hd : Enclosed ds) :
    Enclosed (cs ++ ds) := List.forall_mem_append.mpr ⟨hc, hd⟩

theorem enclosed_intercalate {ls : List (List Char)} (h : ∀ cs ∈ ls, Enclosed cs) :
    Enclosed ([','].intercalate ls) := by
  induction ls with
  | nil => exact List.forall_mem_nil _
  | cons cs ls ih =>
      obtain ⟨hcs, hls⟩ := List.forall_mem_cons.mp h
      cases ls with
      | nil => rwa [List.intercalate_singleton]
      | cons ds ls =>
          rw [List.intercalate_cons_cons]
          exact (hcs.append (by decide)).append (ih hls)

theorem isLine_escapeData (s : String) : Text.IsLine (escaped escapeData s) := by
  intro d hd
  obtain ⟨c, hc⟩ := mem_escaped hd
  rcases mem_escapeData hc with hcode | ⟨rfl, hne⟩
  · exact ⟨(enclosed_codeChars d hcode).1, (enclosed_codeChars d hcode).2.1⟩
  · exact hne

theorem enclosed_escapeProperty (s : String) : Enclosed (escaped escapeProperty s).toList := by
  intro d hd
  obtain ⟨c, hc⟩ := mem_escaped hd
  rcases mem_escapeProperty hc with hcode | ⟨rfl, hfeed, hreturn, hcolon, -⟩
  · exact enclosed_codeChars d hcode
  · exact ⟨hfeed, hreturn, hcolon⟩

theorem comma_notMem_escapeProperty (s : String) : ',' ∉ (escaped escapeProperty s).toList := by
  intro hmem
  obtain ⟨c, hc⟩ := mem_escaped hmem
  rcases mem_escapeProperty hc with hcode | ⟨rfl, -, -, -, hne⟩
  · exact absurd hcode (by decide)
  · exact hne rfl

/-! ### Properties -/

theorem takeWhile_ne {c : Char} {cs : List Char} (h : c ∉ cs) (rest : List Char) :
    (cs ++ c :: rest).takeWhile (· ≠ c) = cs := by
  rw [List.takeWhile_append_of_pos, List.takeWhile_cons_of_neg (by simp), List.append_nil]
  exact fun d hd => decide_eq_true (ne_of_mem_of_not_mem hd h)

theorem dropWhile_ne {c : Char} {cs : List Char} (h : c ∉ cs) (rest : List Char) :
    (cs ++ c :: rest).dropWhile (· ≠ c) = c :: rest := by
  rw [List.dropWhile_append_of_pos, List.dropWhile_cons_of_neg (by simp)]
  exact fun d hd => decide_eq_true (ne_of_mem_of_not_mem hd h)

def propertyChars (p : String × String) : List Char :=
  p.1.toList ++ '=' :: (escaped escapeProperty p.2).toList

theorem readProperty_propertyChars {p : String × String} (h : '=' ∉ p.1.toList) :
    readProperty (propertyChars p) = p := by
  rw [readProperty, propertyChars, takeWhile_ne h, dropWhile_ne h, List.drop_succ_cons,
    List.drop_zero, unescape_escaped unescape_escapeProperty, String.ofList_toList,
    String.ofList_toList]

/-- Properties as they stand in an annotation, with the space in front of them. -/
def propertiesChars (ps : List (String × String)) : List Char :=
  if ps.isEmpty then [] else ' ' :: [','].intercalate (ps.map propertyChars)

/-- A key that stands by itself in front of an equals sign. -/
def IsKey (key : String) : Prop := '=' ∉ key.toList ∧ ',' ∉ key.toList ∧ Enclosed key.toList

variable {ps : List (String × String)}

theorem enclosed_propertiesChars (h : ∀ p ∈ ps, IsKey p.1) : Enclosed (propertiesChars ps) := by
  rw [propertiesChars]
  split_ifs
  · exact List.forall_mem_nil _
  · refine List.forall_mem_cons.mpr ⟨by decide, enclosed_intercalate ?_⟩
    rw [List.forall_mem_map]
    intro p hp
    exact (h p hp).2.2.append (List.forall_mem_cons.mpr ⟨by decide, enclosed_escapeProperty p.2⟩)

theorem readProperties_propertiesChars (h : ∀ p ∈ ps, IsKey p.1) :
    readProperties (propertiesChars ps) = ps := by
  cases ps with
  | nil => rfl
  | cons p ps =>
      have hcomma : ∀ cs ∈ (p :: ps).map propertyChars, ',' ∉ cs := by
        rw [List.forall_mem_map]
        intro q hq
        simp [propertyChars, (h q hq).2.1, comma_notMem_escapeProperty]
      have hread : ∀ q ∈ p :: ps, readProperty (propertyChars q) = q :=
        fun q hq => readProperty_propertyChars (h q hq).1
      rw [propertiesChars, if_neg (by simp), readProperties, if_neg (by simp), List.drop_succ_cons,
        List.drop_zero, List.splitOn_intercalate _ hcomma (by simp), List.map_map]
      exact (List.map_congr_left hread).trans (List.map_id _)

/-! ### Commands -/

theorem cutColons_append {head : List Char} (h : ':' ∉ head) (rest : List Char) :
    cutColons (head ++ ':' :: ':' :: rest) = some (head, rest) := by
  induction head with
  | nil => rfl
  | cons c head ih =>
      rw [List.mem_cons, not_or] at h
      rw [List.cons_append, cutColons, ih h.2]
      · rfl
      · exact fun _ hc _ => h.1 hc.symm

theorem Command.ofParts_append {name : List Char} (hname : ' ' ∉ name)
    (h : ∀ p ∈ ps, IsKey p.1) (data : List Char) :
    ofParts (name ++ propertiesChars ps) data =
      ⟨String.ofList name, ps, String.ofList (unescape data)⟩ := by
  have hchars : ∀ c ∈ name, decide (c ≠ ' ') = true :=
    fun c hc => decide_eq_true (ne_of_mem_of_not_mem hc hname)
  -- What follows the name is nothing or begins with a space.
  have htake : (propertiesChars ps).takeWhile (· ≠ ' ') = [] := by
    rw [propertiesChars]
    split_ifs <;> simp
  have hdrop : (propertiesChars ps).dropWhile (· ≠ ' ') = propertiesChars ps := by
    rw [propertiesChars]
    split_ifs <;> simp
  rw [ofParts, List.takeWhile_append_of_pos hchars, List.dropWhile_append_of_pos hchars, htake,
    hdrop, List.append_nil, readProperties_propertiesChars h]

/-- The properties that an annotation is given. -/
def given (file title : Option String) : List (String × String) :=
  (file.map ("file", ·)).toList ++ (title.map ("title", ·)).toList

theorem isKey_of_mem_given (file title : Option String) : ∀ p ∈ given file title, IsKey p.1 := by
  have hfile : IsKey "file" := ⟨by decide, by decide, by decide⟩
  have htitle : IsKey "title" := ⟨by decide, by decide, by decide⟩
  cases file <;> cases title <;> simp [given, hfile, htitle]

variable (level : Severity) (message : String) (file title : Option String)

/-- The part of an annotation before its data. -/
def headChars : List Char := level.name.toList ++ propertiesChars (given file title)

theorem enclosed_headChars : Enclosed (headChars level file title) := by
  have hname : Enclosed level.name.toList := by cases level <;> decide
  exact hname.append (enclosed_propertiesChars (isKey_of_mem_given file title))

theorem toList_annotation : (String.toList <| annotation level message file title) =
    ':' :: ':' :: (headChars level file title ++
      ':' :: ':' :: (escaped escapeData message).toList) := by
  cases file <;> cases title <;>
    simp [headChars, given, propertiesChars, propertyChars, annotation]

theorem isLine_annotation : Text.IsLine <| annotation level message file title := by
  rw [Text.IsLine, toList_annotation]
  simp only [List.forall_mem_cons, List.forall_mem_append]
  have hhead := enclosed_headChars level file title
  exact ⟨by decide, by decide, fun d hd => ⟨(hhead d hd).1, (hhead d hd).2.1⟩, by decide,
    by decide, isLine_escapeData message⟩

theorem read?_annotation : (Command.read? <| annotation level message file title) =
    some ⟨level.name, given file title, message⟩ := by
  have hcolon : ':' ∉ headChars level file title :=
    fun hmem => (enclosed_headChars level file title ':' hmem).2.2 rfl
  have hspace : ' ' ∉ level.name.toList := by cases level <;> decide
  have hparts := Command.ofParts_append hspace (isKey_of_mem_given file title)
    (escaped escapeData message).toList
  simp only [Command.read?, toList_annotation, cutColons_append hcolon, Option.map_some]
  rw [headChars, hparts, unescape_escaped unescape_escapeData, String.ofList_toList,
    String.ofList_toList]

/-- An annotation is one line. Read as a command it has the level for its name, the message for its
data and no property but the file and the title that it was given, so that no text in it can pass
for a property or begin another command. -/
theorem annotation_reads_back :
    (Text.IsLine <| annotation level message file title) ∧
    ∃ command, (Command.read? <| annotation level message file title) = some command ∧
      Severity.named? command.name = some level ∧
      command.data = message ∧
      command.properties = (file.map ("file", ·)).toList ++ (title.map ("title", ·)).toList ∧
      command.property? "file" = file ∧
      command.property? "title" = title := by
  have hline := isLine_annotation level message file title
  have hread := read?_annotation level message file title
  refine ⟨hline, _, hread, Severity.named?_name level, rfl, rfl, ?_, ?_⟩
  · cases file <;> cases title <;> simp [Command.property?, given]
  · cases file <;> cases title <;> simp [Command.property?, given]

/-- A file that looks like another property, and a message that looks escaped. -/
example : (Command.read? <| annotation .error "50%25\n::warning::" (some "a,title=b::c") none) =
    some ⟨"error", [("file", "a,title=b::c")], "50%25\n::warning::"⟩ := by decide

end Blueprint.Terminal
