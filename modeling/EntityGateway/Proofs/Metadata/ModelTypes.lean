/-
Model types as they are written.

A schema is searched for declarations, and the text between braces for fields. If declarations stand one after another,
each with its fields one to a line, then nothing else is found: a search that starts at a declaration takes it as a
whole, whatever its name is, and passes over the blanks to the next one. So the models of the schema are those that are
declared, with their fields in order; of two with one name in lower case the last one counts, and declarations of other
types leave no trace.

- `search_written`: items that are written one after another with blanks between them are found as they are;
- `field_written`, `declaration_written`: a field and a declaration at the front of a text;
- `models_write`: the models of a schema, with `models_are_read_back`.
-/
import EntityGateway.Metadata.ModelSchema
import EntityGateway.Proofs.Text.Ends

namespace EntityGateway.ModelSchema

/-! ## Searching -/

section Search

variable {α β : Type} {item : List Char → Option (α × List Char)}

/-- no item is found where there is nothing or a blank -/
structure PassesBlanks (item : List Char → Option (α × List Char)) : Prop where
  nil : item [] = none
  blank : ∀ c cs, Unicode.isBlank c = true → item (c :: cs) = none

/-- nothing but blanks -/
def AllBlank (cs : List Char) : Prop := ∀ c ∈ cs, Unicode.isBlank c = true

theorem search_found {fuel : Nat} {cs rest : List Char} {a : α} (h : item cs = some (a, rest)) :
    search item (fuel + 1) cs = a :: search item fuel rest := by
  cases cs <;> simp only [search, h]

theorem search_blanks (hitem : PassesBlanks item) {gap : List Char} (hgap : AllBlank gap) (fuel : Nat)
    (cs : List Char) :
    search item (fuel + gap.length) (gap ++ cs) = search item fuel cs := by
  induction gap with
  | nil => rfl
  | cons c gap ih =>
    obtain ⟨hc, hrest⟩ := List.forall_mem_cons.1 hgap
    have hstep :
        search item (fuel + gap.length + 1) (c :: (gap ++ cs)) = search item (fuel + gap.length) (gap ++ cs) := by
      rw [search, hitem.blank c _ hc]
    exact hstep.trans (ih hrest)

theorem searchAll_blanks (hitem : PassesBlanks item) {gap : List Char} (hgap : AllBlank gap) (cs : List Char) :
    searchAll item (gap ++ cs) = searchAll item cs := by
  have hfuel : (gap ++ cs).length + 1 = (cs.length + 1) + gap.length := by
    rw [List.length_append]
    omega
  unfold searchAll
  rw [hfuel]
  exact search_blanks hitem hgap _ cs

/-- **Items that are written one after another**, with blanks before and after each, are found as they are -/
theorem search_written (hitem : PassesBlanks item) {lead trail : List Char} (hlead : AllBlank lead)
    (htrail : AllBlank trail) {write : β → List Char} {read : β → α} {l : List β}
    (hwritten : ∀ b ∈ l, ∀ rest, item (write b ++ (trail ++ rest)) = some (read b, trail ++ rest))
    (hne : ∀ b ∈ l, write b ≠ []) {fuel : Nat}
    (hfuel : (l.flatMap fun b => lead ++ (write b ++ trail)).length < fuel) :
    search item fuel (l.flatMap fun b => lead ++ (write b ++ trail)) = l.map read := by
  induction l generalizing fuel with
  | nil =>
    obtain ⟨k, rfl⟩ := Nat.exists_eq_add_of_lt hfuel
    show search item (0 + k + 1) [] = []
    rw [search, hitem.nil]
  | cons b l ih =>
    obtain ⟨hb, hl⟩ := List.forall_mem_cons.1 hwritten
    obtain ⟨hbne, hlne⟩ := List.forall_mem_cons.1 hne
    have hlength := List.length_pos_iff.2 hbne
    rw [List.flatMap_cons] at hfuel ⊢
    generalize hmore : (l.flatMap fun b => lead ++ (write b ++ trail)) = more at ih hfuel ⊢
    simp only [List.length_append] at hfuel
    -- fuel for the blanks before the item, one for the item, and fuel for the blanks after it
    obtain ⟨k, rfl⟩ : ∃ k, fuel = (k + trail.length + 1) + lead.length :=
      ⟨fuel - (trail.length + 1 + lead.length), by omega⟩
    have htext : lead ++ (write b ++ trail) ++ more = lead ++ (write b ++ (trail ++ more)) := by
      simp only [List.append_assoc]
    rw [htext, search_blanks hitem hlead, search_found (hb more), search_blanks hitem htrail, List.map_cons,
      ih hl hlne (by omega)]

end Search

/-! ## Words and blanks -/

/-- the code points of blanks, as ranges -/
def blankRanges : List (Nat × Nat) :=
  [(0x09, 0x0D), (0x20, 0x20), (0x85, 0x85), (0xA0, 0xA0), (0x1680, 0x1680), (0x2000, 0x200A), (0x2028, 0x2029),
    (0x202F, 0x202F), (0x205F, 0x205F), (0x3000, 0x3000)]

theorem exists_blankRange {c : Char} (h : Unicode.isBlank c = true) :
    ∃ r ∈ blankRanges, r.1 ≤ c.toNat ∧ c.toNat ≤ r.2 := by
  simp only [Unicode.isBlank, Bool.or_eq_true, Bool.and_eq_true, decide_eq_true_eq, beq_iff_eq] at h
  simp only [blankRanges, List.exists_mem_cons_iff, List.not_mem_nil, false_and, exists_false, or_false]
  omega

theorem ranges_apart : ∀ word ∈ Unicode.wordRanges.toList, ∀ blank ∈ blankRanges,
    blank.2 < word.1 ∨ word.2 < blank.1 := by
  decide +kernel

theorem le_of_isAsciiWord {c : Char} (h : Unicode.isAsciiWord c = true) : 48 ≤ c.toNat := by
  simp only [Unicode.isAsciiWord, Bool.or_eq_true, Bool.and_eq_true, decide_eq_true_eq, beq_iff_eq, Char.le_def] at h
  rcases h with ((h | h) | h) | rfl
  · exact Nat.le_trans (by decide) (show 97 ≤ c.toNat from h.1)
  · exact Nat.le_trans (by decide) (show 65 ≤ c.toNat from h.1)
  · exact h.1
  · decide

theorem not_isWord_of_isBlank {c : Char} (h : Unicode.isBlank c = true) : Unicode.isWord c = false := by
  obtain ⟨blank, hblank, hlow, hhigh⟩ := exists_blankRange h
  rw [← Bool.not_eq_true]
  intro hword
  unfold Unicode.isWord at hword
  split_ifs at hword with hascii
  · have hle := le_of_isAsciiWord hword
    simp only [blankRanges, List.mem_cons, List.not_mem_nil, or_false] at hblank
    rcases hblank with rfl | rfl | rfl | rfl | rfl | rfl | rfl | rfl | rfl | rfl <;> omega
  · obtain ⟨word, hmem, hin⟩ := Array.any_eq_true'.1 hword
    simp only [Bool.and_eq_true, decide_eq_true_eq] at hin
    have hapart := ranges_apart word (Array.mem_toList_iff.2 hmem) blank hblank
    omega

theorem not_isTypeChar_of_isBlank {c : Char} (h : Unicode.isBlank c = true) : isTypeChar c = false := by
  have hother : c ≠ '[' ∧ c ≠ ']' ∧ c ≠ '!' := by
    refine ⟨?_, ?_, ?_⟩ <;> rintro rfl <;> exact absurd h (by decide)
  simp [isTypeChar, not_isWord_of_isBlank h, hother]

theorem isTypeChar_of_isWord {c : Char} (h : Unicode.isWord c = true) : isTypeChar c = true := by
  simp [isTypeChar, h]

/-! ## Fields -/

/-- characters of a class, at least one -/
structure Consists (p : Char → Bool) (s : String) : Prop where
  nonempty : s.toList ≠ []
  all : ∀ c ∈ s.toList, p c = true

instance (p : Char → Bool) (s : String) : Decidable (Consists p s) :=
  decidable_of_iff (s.toList ≠ [] ∧ s.toList.all p = true)
    ⟨fun h => ⟨h.1, List.all_eq_true.1 h.2⟩, fun h => ⟨h.nonempty, List.all_eq_true.2 h.all⟩⟩

/-- a field as it is declared -/
structure DeclaredField where
  name : String
  type : String
deriving DecidableEq, Repr

namespace DeclaredField

/-- a name of word characters and a type of characters of types -/
structure IsLegal (f : DeclaredField) : Prop where
  name : Consists Unicode.isWord f.name
  type : Consists isTypeChar f.type

instance (f : DeclaredField) : Decidable f.IsLegal :=
  decidable_of_iff (Consists Unicode.isWord f.name ∧ Consists isTypeChar f.type)
    ⟨fun h => ⟨h.1, h.2⟩, fun h => ⟨h.name, h.type⟩⟩

def chars (f : DeclaredField) : List Char := f.name.toList ++ ':' :: ' ' :: f.type.toList

/-- a column is that of a field -/
structure IsReadAs (f : DeclaredField) (c : Column) : Prop where
  name : c.name = f.name
  /-- the type without the exclamation marks at its end -/
  type : ∃ n, f.type = c.dataType ++ String.ofList (List.replicate n '!')
  unmarked : c.dataType.toList.getLast? ≠ some '!'
  nullable : c.nullable = true ↔ f.type.toList.getLast? ≠ some '!'
  hasDefault : c.hasDefault = false

def column (f : DeclaredField) : Column := ModelSchema.column f.name.toList f.type.toList

end DeclaredField

theorem skipBlanks_of_nonblank {cs : List Char} (h : ∀ c ∈ cs.head?, Unicode.isBlank c = false) :
    skipBlanks cs = cs := by
  cases cs with
  | nil => rfl
  | cons c cs => exact List.dropWhile_cons_of_neg (by simp [h c rfl])

theorem word_append {s : String} (h : Consists Unicode.isWord s) {rest : List Char}
    (hstop : ∀ c ∈ rest.head?, Unicode.isWord c = false) : word (s.toList ++ rest) = some (s.toList, rest) := by
  unfold word
  rw [Text.span_append h.all hstop]
  cases hs : s.toList with
  | nil => exact absurd hs h.nonempty
  | cons c cs => rfl

theorem skipBlanks_append {p : Char → Bool} (hp : ∀ c, p c = true → Unicode.isBlank c = false) {s : String}
    (h : Consists p s) (rest : List Char) : skipBlanks (s.toList ++ rest) = s.toList ++ rest := by
  cases hs : s.toList with
  | nil => exact absurd hs h.nonempty
  | cons c cs =>
    have hc : p c = true := h.all c (hs ▸ List.mem_cons_self)
    exact skipBlanks_of_nonblank (by simp [hp c hc])

theorem nonblank_of_isTypeChar (c : Char) (h : isTypeChar c = true) : Unicode.isBlank c = false := by
  rw [← Bool.not_eq_true]
  intro hblank
  rw [not_isTypeChar_of_isBlank hblank] at h
  cases h

theorem nonblank_of_isWord (c : Char) (h : Unicode.isWord c = true) : Unicode.isBlank c = false :=
  nonblank_of_isTypeChar c (isTypeChar_of_isWord h)

/-- **A field at the front of a text** is taken up to the first character that is none of a type -/
theorem field_written {f : DeclaredField} (h : f.IsLegal) {rest : List Char}
    (hstop : ∀ c ∈ rest.head?, isTypeChar c = false) : field (f.chars ++ rest) = some (f.column, rest) := by
  have hname : word (f.name.toList ++ ':' :: ' ' :: (f.type.toList ++ rest)) =
      some (f.name.toList, ':' :: ' ' :: (f.type.toList ++ rest)) :=
    word_append h.name (by simp only [List.head?_cons, Option.mem_some_iff]; rintro c rfl; decide)
  have hcolon : skipArguments (skipBlanks (':' :: ' ' :: (f.type.toList ++ rest))) =
      ':' :: ' ' :: (f.type.toList ++ rest) := rfl
  have htype : (skipBlanks (' ' :: (f.type.toList ++ rest))).span isTypeChar = (f.type.toList, rest) := by
    have hskip : skipBlanks (' ' :: (f.type.toList ++ rest)) = skipBlanks (f.type.toList ++ rest) := rfl
    rw [hskip, skipBlanks_append nonblank_of_isTypeChar h.type, Text.span_append h.type.all hstop]
  have hchars : f.chars ++ rest = f.name.toList ++ ':' :: ' ' :: (f.type.toList ++ rest) := by
    simp [DeclaredField.chars]
  unfold field
  rw [hchars, hname]
  simp only [Option.bind_eq_bind, Option.bind_some, hcolon, htype]
  cases hchars : f.type.toList with
  | nil => exact absurd hchars h.type.nonempty
  | cons c cs => simp only [DeclaredField.column, hchars]

theorem passesBlanks_field : PassesBlanks field where
  nil := rfl
  blank c cs hc := by
    have hspan : (c :: cs).span Unicode.isWord = ([], c :: cs) :=
      Text.span_append (List.forall_mem_nil _) (by
        simp only [List.head?_cons, Option.mem_some_iff]
        rintro d rfl
        exact not_isWord_of_isBlank hc)
    unfold field word
    rw [hspan]
    rfl

/-! ## Declarations -/

/-- a type as it is declared -/
structure DeclaredType where
  name : String
  isModel : Bool
  fields : List DeclaredField
deriving DecidableEq, Repr

/-- how declarations are laid out: blanks before each field, and blanks after each declaration -/
structure Layout where
  indent : List Char := []
  gap : List Char := ['\n']

/-- a layout of blanks -/
structure Layout.IsLegal (l : Layout) : Prop where
  indent : AllBlank l.indent
  gap : AllBlank l.gap

namespace DeclaredType

/-- a name of word characters, and fields -/
structure IsLegal (d : DeclaredType) : Prop where
  name : Consists Unicode.isWord d.name
  fields : ∀ f ∈ d.fields, f.IsLegal

instance (d : DeclaredType) : Decidable d.IsLegal :=
  decidable_of_iff (Consists Unicode.isWord d.name ∧ ∀ f ∈ d.fields, f.IsLegal)
    ⟨fun h => ⟨h.1, h.2⟩, fun h => ⟨h.name, h.fields⟩⟩

/-- what stands between the name and the fields -/
def opening (d : DeclaredType) : List Char := (if d.isModel then " @model \x7b" else " \x7b").toList

def body (l : Layout) (d : DeclaredType) : List Char :=
  '\n' :: d.fields.flatMap fun f => l.indent ++ (f.chars ++ ['\n'])

def chars (l : Layout) (d : DeclaredType) : List Char :=
  "type ".toList ++ (d.name.toList ++ (d.opening ++ (d.body l ++ ['\x7d'])))

/-- what is read of a type -/
def read (d : DeclaredType) : TypeDeclaration := ⟨d.name, d.isModel, d.fields.map DeclaredField.column⟩

end DeclaredType

def write (l : Layout) (ds : List DeclaredType) : String := String.ofList (ds.flatMap fun d => d.chars l ++ l.gap)

section Declarations

variable {l : Layout} {d : DeclaredType}

theorem ne_brace_of_isTypeChar {c : Char} (h : isTypeChar c = true) : c ≠ '\x7d' := by
  rintro rfl
  exact absurd h (by decide)

/-- the fields are closed by the first brace -/
theorem ne_brace_of_mem_body (hl : l.IsLegal) (hd : d.IsLegal) : ∀ c ∈ d.body l, c ≠ '\x7d' := by
  intro c hc
  rcases List.mem_cons.1 hc with rfl | hc
  · decide
  obtain ⟨f, hf, hc⟩ := List.mem_flatMap.1 hc
  obtain ⟨hname, htype⟩ := hd.fields f hf
  simp only [DeclaredField.chars, List.mem_append, List.mem_cons, List.not_mem_nil, or_false] at hc
  rcases hc with hc | (hc | rfl | rfl | hc) | rfl
  · rintro rfl
    exact absurd (hl.indent _ hc) (by decide)
  · exact ne_brace_of_isTypeChar (isTypeChar_of_isWord (hname.all c hc))
  · decide
  · decide
  · exact ne_brace_of_isTypeChar (htype.all c hc)
  · decide

/-- **The fields of a declaration** are found between its braces -/
theorem searchAll_body (hl : l.IsLegal) (hd : d.IsLegal) :
    searchAll field (d.body l) = d.fields.map DeclaredField.column := by
  have hbreak : AllBlank ['\n'] := List.forall_mem_singleton.2 rfl
  refine (searchAll_blanks passesBlanks_field hbreak _).trans ?_
  refine search_written passesBlanks_field hl.indent hbreak ?_ ?_ (Nat.lt_succ_self _)
  · intro f hf rest
    refine field_written (hd.fields f hf) ?_
    simp only [List.cons_append, List.head?_cons, Option.mem_some_iff]
    rintro c rfl
    decide
  · intro f hf
    simp [DeclaredField.chars]

theorem openFields_opening (d : DeclaredType) (cs : List Char) :
    openFields (skipBlanks (d.opening ++ cs)) = some (d.isModel, cs) := by
  unfold DeclaredType.opening
  cases d.isModel <;> rfl

/-- the name of a declaration ends before what opens its fields -/
theorem word_opening (hd : d.IsLegal) (cs : List Char) :
    word (skipBlanks (d.name.toList ++ (d.opening ++ cs))) = some (d.name.toList, d.opening ++ cs) := by
  have hstop : ∀ c ∈ (d.opening ++ cs).head?, Unicode.isWord c = false := by
    intro c hc
    unfold DeclaredType.opening at hc
    cases hmodel : d.isModel <;> rw [hmodel] at hc <;> cases hc <;> decide
  rw [skipBlanks_append nonblank_of_isWord hd.name, word_append hd.name hstop]

/-- **A declaration at the front of a text** is taken as a whole, whatever follows -/
theorem declaration_written (hl : l.IsLegal) (hd : d.IsLegal) (rest : List Char) :
    declaration (d.chars l ++ rest) = some (d.read, rest) := by
  have hchars : d.chars l ++ rest =
      "type".toList ++ (' ' :: (d.name.toList ++ (d.opening ++ (d.body l ++ '\x7d' :: rest)))) := by
    simp [DeclaredType.chars]
  have hfront := Text.stripFront?_eq_some.2 hchars
  have hclose : upTo '\x7d' (d.body l ++ '\x7d' :: rest) = some (d.body l, rest) := by
    unfold upTo
    rw [Text.span_append (by simpa using ne_brace_of_mem_body hl hd) (by simp)]
  have hblank : Unicode.isBlank ' ' = true := rfl
  unfold declaration
  simp only [hfront, hblank, if_true, word_opening hd, openFields_opening, hclose, Option.bind_eq_bind,
    Option.bind_some, searchAll_body hl hd, String.ofList_toList]
  rfl

theorem passesBlanks_declaration : PassesBlanks declaration where
  nil := rfl
  blank c cs hc := by
    have hne : 't' ≠ c := by
      rintro rfl
      exact absurd hc (by decide)
    have hfront : Text.stripFront? "type".toList (c :: cs) = none := if_neg hne
    unfold declaration
    rw [hfront]
    rfl

/-- **Declarations are found as they are written** -/
theorem searchAll_write (hl : l.IsLegal) {ds : List DeclaredType} (hds : ∀ d ∈ ds, d.IsLegal) :
    searchAll declaration (write l ds).toList = ds.map DeclaredType.read := by
  unfold write
  rw [String.toList_ofList]
  show search declaration _ (ds.flatMap fun d => [] ++ (d.chars l ++ l.gap)) = _
  refine search_written passesBlanks_declaration (List.forall_mem_nil _) hl.gap ?_ ?_ (Nat.lt_succ_self _)
  · intro d hd rest
    exact declaration_written hl (hds d hd) _
  · intro d _
    simp [DeclaredType.chars]

end Declarations

/-! ## Models -/

section Models

variable {l : Layout} {ds : List DeclaredType}

/-- **The models of a schema** are those that are declared, under their names in lower case -/
theorem models_write (hl : l.IsLegal) (hds : ∀ d ∈ ds, d.IsLegal) :
    models (write l ds) = NameMap.ofList ((ds.filter (·.isModel)).map fun d =>
      (Unicode.lower d.name, d.fields.map DeclaredField.column)) := by
  unfold models
  rw [searchAll_write hl hds, List.filter_map, List.map_map]
  rfl

theorem exists_marks (cs : List Char) : ∃ n front, cs = front ++ List.replicate n '!' ∧ front.getLast? ≠ some '!' := by
  induction cs using List.reverseRecOn with
  | nil => exact ⟨0, [], rfl, by simp⟩
  | append_singleton cs c ih =>
    by_cases hc : c = '!'
    · obtain ⟨n, front, hcs, hlast⟩ := ih
      refine ⟨n + 1, front, ?_, hlast⟩
      rw [hcs, hc, List.append_assoc, List.replicate_succ']
    · exact ⟨0, cs ++ [c], by simp, by simpa using hc⟩

theorem trimEnd_marks {front : List Char} (h : front.getLast? ≠ some '!') (n : Nat) :
    Text.trimEnd (· = '!') (String.ofList (front ++ List.replicate n '!')) = String.ofList front := by
  refine Text.trimEnd_append ?_ rfl n
  intro d hd
  rw [decide_eq_false_iff_not]
  rintro rfl
  exact h hd

theorem isReadAs_column (f : DeclaredField) : f.IsReadAs f.column := by
  obtain ⟨n, front, hchars, hlast⟩ := exists_marks f.type.toList
  have hdata : f.column.dataType = String.ofList front := by
    unfold DeclaredField.column column
    rw [hchars]
    exact trimEnd_marks hlast n
  refine ⟨String.ofList_toList, ⟨n, ?_⟩, ?_, ?_, rfl⟩
  · rw [hdata, ← String.ofList_append, ← hchars, String.ofList_toList]
  · rwa [hdata, String.toList_ofList]
  · simp [DeclaredField.column, column]

theorem isReadAs_iff {f : DeclaredField} {c : Column} : f.IsReadAs c ↔ c = f.column := by
  constructor
  · intro ⟨hname, ⟨n, htype⟩, hunmarked, hnullable, hdefault⟩
    have hdata : Text.trimEnd (· = '!') f.type = c.dataType := by
      have hchars : f.type = String.ofList (c.dataType.toList ++ List.replicate n '!') := by simp [htype]
      rw [hchars, trimEnd_marks hunmarked, String.ofList_toList]
    obtain ⟨name, dataType, nullable, hasDefault⟩ := c
    simp only [DeclaredField.column, column, Column.mk.injEq, String.ofList_toList]
    refine ⟨hname, hdata.symm, ?_, hdefault⟩
    rw [Bool.eq_iff_iff, hnullable, bne_iff_ne]
  · rintro rfl
    exact isReadAs_column f

theorem areReadAs_iff {fields : List DeclaredField} {columns : List Column} :
    List.Forall₂ DeclaredField.IsReadAs fields columns ↔ fields.map DeclaredField.column = columns := by
  have hread : DeclaredField.IsReadAs = fun f c => f.column = c := by
    funext f c
    exact propext (isReadAs_iff.trans eq_comm)
  rw [hread, ← List.forall₂_map_left_iff, List.forall₂_eq_eq_eq]

/-- **Models are read back as they are written**: under a name there are the fields of the last of the models that have
it in lower case, in their order, and declarations of other types leave no trace -/
theorem models_are_read_back (hl : l.IsLegal) (hds : ∀ d ∈ ds, d.IsLegal) :
    (∀ name columns, (models (write l ds)).get? name = some columns ↔
      ∃ d, (ds.filter fun d => d.isModel ∧ Unicode.lower d.name = name).getLast? = some d ∧
        List.Forall₂ DeclaredField.IsReadAs d.fields columns) ∧
    models (write l ds) = models (write l (ds.filter (·.isModel))) := by
  constructor
  · intro name columns
    have hmodels : (ds.filter fun d => Unicode.lower d.name == name && d.isModel) =
        ds.filter fun d => d.isModel ∧ Unicode.lower d.name = name := by
      refine List.filter_congr fun d _ => ?_
      rw [Bool.eq_iff_iff]
      simp [and_comm]
    have hlast : (models (write l ds)).get? name =
        (ds.filter fun d => d.isModel ∧ Unicode.lower d.name = name).getLast?.map
          (·.fields.map DeclaredField.column) := by
      rw [models_write hl hds, NameMap.get?_ofList_eq, List.filter_map, List.filter_filter, List.getLast?_map,
        Option.map_map, ← hmodels]
      rfl
    simp only [hlast, Option.map_eq_some_iff, areReadAs_iff]
  · rw [models_write hl hds, models_write hl fun d hd => hds d (List.mem_of_mem_filter hd), List.filter_filter]
    simp only [Bool.and_self]

end Models

/-! ### Planets -/

/-- two models of one name, and a type between them with names that look like more declarations -/
def planets : List DeclaredType :=
  [⟨"Planet", true, [⟨"id", "ID!"⟩]⟩, ⟨"typemodel", false, [⟨"type", "model"⟩]⟩,
    ⟨"planet", true, [⟨"moons", "[Moon]!!"⟩, ⟨"name", "String"⟩]⟩]

theorem planets_are_read_back :
    write {} planets = "type Planet @model \x7b\nid: ID!\n\x7d\n" ++ "type typemodel \x7b\ntype: model\n\x7d\n" ++
      "type planet @model \x7b\nmoons: [Moon]!!\nname: String\n\x7d\n" ∧
    (∀ d ∈ planets, d.IsLegal) ∧
    (models (write {} planets)).get? "planet" =
      some [⟨"moons", "[Moon]", false, false⟩, ⟨"name", "String", true, false⟩] := by
  have hlayout : Layout.IsLegal {} := ⟨List.forall_mem_nil _, List.forall_mem_singleton.2 rfl⟩
  have hlegal : ∀ d ∈ planets, d.IsLegal := by decide
  refine ⟨rfl, hlegal, ((models_are_read_back hlayout hlegal).1 "planet" _).2 ⟨_, rfl, areReadAs_iff.2 rfl⟩⟩

end EntityGateway.ModelSchema
