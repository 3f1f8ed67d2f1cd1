import ReviewDiff.Proofs.Json.Numbers
import ReviewDiff.Proofs.Json.Strings

/-!
# Documents that are written and read back

A value is legible when nothing is lost in writing it: its integers are not too long to be read, the
texts of its doubles read back as these doubles, and no object has two members of one name. A
legible value is read back from its text, whatever stands behind the text, provided that a value can
end there. The proof follows the writer: one lemma for a value, one for the items after the first
and one for the members after the first, each by the recursion of the function that writes them.
-/

set_option autoImplicit false

namespace ReviewDiff.Json

/-- Members and items are indented by spaces. -/
def Style.Spaced (style : Style) : Prop := ∀ unit ∈ style.indent, ∀ c ∈ unit.toList, c = ' '

/-- Whether the text of a double reads back as the double. -/
def ReadsBack (x : Binary64) : Prop := read (x.text numberLayout).toList = .ok (.float x)

mutual

/-- Whether nothing is lost in the text of a value. -/
def Legible : Json → Prop
  | .int n => Numeral.isLong n = false
  | .float x => ReadsBack x
  | .arr items => LegibleItems items
  | .obj members => (members.map (·.1)).Nodup ∧ LegibleMembers members
  | _ => True

def LegibleItems : List Json → Prop
  | [] => True
  | item :: rest => Legible item ∧ LegibleItems rest

def LegibleMembers : List (String × Json) → Prop
  | [] => True
  | (_, item) :: rest => Legible item ∧ LegibleMembers rest

end

theorem skipSpace_blanks {blanks : List Char} (h : ∀ c ∈ blanks, isSpace c = true) {c : Char}
    (hc : isSpace c = false) (rest : List Char) :
    skipSpace (blanks ++ c :: rest) = c :: rest := by
  rw [skipSpace, List.dropWhile_append_of_pos h, List.dropWhile_cons_of_neg (ne_true_of_eq_false hc)]

theorem skipSpace_head {c : Char} (hc : isSpace c = false) (rest : List Char) :
    skipSpace (c :: rest) = c :: rest :=
  skipSpace_blanks (List.forall_mem_nil _) hc rest

theorem atStop_blanks {blanks : List Char} (h : ∀ c ∈ blanks, isSpace c = true) {c : Char}
    (hc : isStop c = true) (rest : List Char) : AtStop (blanks ++ c :: rest) := by
  cases blanks with
  | nil =>
    rintro d hd
    obtain rfl : c = d := Option.some.inj hd
    exact hc
  | cons b blanks =>
    rintro d hd
    obtain rfl : b = d := Option.some.inj hd
    simp [isStop, h b List.mem_cons_self]

theorem ne_of_not_isStop {c d : Char} (hc : isStop c = false) (hd : isStop d = true) : c ≠ d := by
  rintro rfl
  rw [hc] at hd
  cases hd

theorem not_isSpace_of_not_isStop {c : Char} (h : isStop c = false) : isSpace c = false := by
  simp only [isStop, Bool.or_eq_false_iff] at h
  exact h.1.1.1

theorem mem_lineBreak {style : Style} (hstyle : style.Spaced) {depth : Nat} {c : Char}
    (hc : c ∈ style.lineBreak depth) : c = '\n' ∨ c = ' ' := by
  unfold Style.lineBreak at hc
  cases hindent : style.indent with
  | none => simp [hindent] at hc
  | some unit =>
    simp only [hindent, List.mem_cons, List.mem_flatten, List.mem_replicate] at hc
    obtain rfl | ⟨-, ⟨-, rfl⟩, hunit⟩ := hc
    · exact .inl rfl
    · exact .inr (hstyle unit hindent c hunit)

theorem isSpace_lineBreak {style : Style} (hstyle : style.Spaced) (depth : Nat) :
    ∀ c ∈ style.lineBreak depth, isSpace c = true := by
  intro c hc
  obtain rfl | rfl := mem_lineBreak hstyle hc <;> rfl

theorem separator_blanks (style : Style) :
    ∃ blanks, style.separator = ',' :: blanks ∧ ∀ c ∈ blanks, isSpace c = true := by
  unfold Style.separator
  split
  · exact ⟨[' '], rfl, List.forall_mem_singleton.mpr rfl⟩
  · exact ⟨[], rfl, List.forall_mem_nil _⟩

/-- Whether characters begin with one that can begin a document. -/
def Opens (cs : List Char) : Prop :=
  ∃ c rest, cs = c :: rest ∧ isStop c = false ∧ c ≠ Char.ofNat 0xFEFF

theorem value_string (fuel room : Nat) {cs rest : List Char} {s : String}
    (h : string cs = .ok (s, rest)) :
    value (fuel + 1) room ('"' :: cs) = .ok (.str s, rest) := by
  cases room <;> simp [value, h]

theorem value_scalar (fuel room : Nat) {cs : List Char}
    (h : ∀ c ∈ cs.head?, c ≠ '"' ∧ c ≠ '[' ∧ c ≠ '{') :
    value (fuel + 1) room cs = scalar cs := by
  cases cs with
  | nil => cases room <;> rfl
  | cons c cs =>
    obtain ⟨hquote, hbracket, hbrace⟩ := h c rfl
    -- All that is known of the character is what it is not, so every branch is looked at.
    unfold value
    split
    · next hfuel => cases hfuel
    · next heq => exact absurd (List.cons.inj heq).1 hbracket
    · next heq => exact absurd (List.cons.inj heq).1 hbrace
    · next hfuel =>
      split
      · next heq => exact absurd (List.cons.inj heq).1 hquote
      · next heq => exact absurd (List.cons.inj heq).1 hbracket
      · next heq => exact absurd (List.cons.inj heq).1 hbrace
      · rfl

theorem value_array (fuel room : Nat) {cs inner : List Char} (h : skipSpace cs = inner)
    (hinner : Opens inner) :
    value (fuel + 1) (room + 1) ('[' :: cs) = items fuel room inner [] := by
  obtain ⟨c, rest, rfl, hc, -⟩ := hinner
  have hbracket : c ≠ ']' := ne_of_not_isStop hc (by decide)
  simp [value, h, hbracket]

theorem value_object (fuel room : Nat) {cs inner : List Char} (h : skipSpace cs = inner)
    (hinner : Opens inner) :
    value (fuel + 1) (room + 1) ('{' :: cs) = members fuel room inner [] := by
  obtain ⟨c, rest, rfl, hc, -⟩ := hinner
  have hbrace : c ≠ '}' := ne_of_not_isStop hc (by decide)
  simp [value, h, hbrace]

theorem head_isNumeric {cs : List Char} (h : ∀ c ∈ cs, isNumeric c = true) :
    ∀ c ∈ cs.head?, c ≠ '"' ∧ c ≠ '[' ∧ c ≠ '{' := by
  intro c hc
  have hnumeric := h c (List.mem_of_mem_head? hc)
  exact ⟨ne_of_isNumeric hnumeric (by decide), ne_of_isNumeric hnumeric (by decide),
    ne_of_isNumeric hnumeric (by decide)⟩

theorem value_atom (fuel room : Nat) {cs rest : List Char} {j : Json}
    (hscalar : scalar cs = .ok (j, [])) (hcs : ∀ c ∈ cs.head?, c ≠ '"' ∧ c ≠ '[' ∧ c ≠ '{')
    (hrest : AtStop rest) : value (fuel + 1) room (cs ++ rest) = .ok (j, rest) := by
  cases cs with
  | nil => cases hscalar
  | cons c cs =>
    have hcs : ∀ d ∈ (c :: cs ++ rest).head?, d ≠ '"' ∧ d ≠ '[' ∧ d ≠ '{' := hcs
    rw [value_scalar fuel room hcs, scalar_append hrest hscalar, List.nil_append]

theorem scalar_of_read {cs : List Char} (hcs : ∀ c ∈ cs, isNumeric c = true) {j : Json}
    (h : read cs = .ok j) : scalar cs = .ok (j, []) := by
  have hblank (left : List Char) (hleft : left ⊆ cs) : skipSpace left = left := by
    cases left with
    | nil => rfl
    | cons c left =>
      exact skipSpace_head (not_isSpace_of_isNumeric (hcs c (hleft List.mem_cons_self))) left
  rw [read, hblank cs (List.Subset.refl cs), value_scalar _ _ (head_isNumeric hcs)] at h
  split at h
  · cases h
  · split at h
    · cases h
    · next j' left hscalar =>
      rw [hblank left (scalar_suffix hscalar).subset] at h
      split at h
      · rw [hscalar, Except.ok.inj h]
      · cases h

theorem opens_numeric {cs : List Char} (hcs : ∀ c ∈ cs, isNumeric c = true)
    {found : Json × List Char} (h : scalar cs = .ok found) : Opens cs := by
  cases cs with
  | nil => cases h
  | cons c cs =>
    have hc := hcs c List.mem_cons_self
    refine ⟨c, cs, rfl, ?_, ne_of_isNumeric hc (by decide)⟩
    simp [isStop, not_isSpace_of_isNumeric hc, ne_of_isNumeric hc (d := ',') (by decide),
      ne_of_isNumeric hc (d := ']') (by decide), ne_of_isNumeric hc (d := '}') (by decide)]

theorem opens_writeAt (style : Style) (depth : Nat) {j : Json} (hj : Legible j) :
    Opens (writeAt style depth j) := by
  cases j with
  | null => exact ⟨_, _, rfl, by decide, by decide⟩
  | bool b => cases b <;> exact ⟨_, _, rfl, by decide, by decide⟩
  | int n => exact opens_numeric (isNumeric_toString n) (scalar_toString hj)
  | float x => exact opens_numeric (isNumeric_text x) (scalar_of_read (isNumeric_text x) hj)
  | str s => exact ⟨_, _, rfl, by decide, by decide⟩
  | arr items => cases items <;> exact ⟨_, _, rfl, by decide, by decide⟩
  | obj members => rcases members with _ | ⟨⟨name, first⟩, rest⟩ <;>
      exact ⟨_, _, rfl, by decide, by decide⟩

theorem Opens.append {cs : List Char} (h : Opens cs) (rest : List Char) : Opens (cs ++ rest) := by
  obtain ⟨c, left, rfl, hc⟩ := h
  exact ⟨c, left ++ rest, rfl, hc⟩

theorem opens_writeString (asciiOnly : Bool) (s : String) (rest : List Char) :
    Opens (writeString asciiOnly s ++ rest) :=
  ⟨_, _, rfl, by decide, by decide⟩

theorem skipSpace_opens {blanks : List Char} (h : ∀ c ∈ blanks, isSpace c = true) {cs : List Char}
    (hcs : Opens cs) : skipSpace (blanks ++ cs) = cs := by
  obtain ⟨c, rest, rfl, hc, -⟩ := hcs
  exact skipSpace_blanks h (not_isSpace_of_not_isStop hc) rest

theorem items_last {fuel room : Nat} {cs blanks rest : List Char} {item : Json} {before : List Json}
    (hvalue : value fuel room cs = .ok (item, blanks ++ ']' :: rest))
    (hblanks : ∀ c ∈ blanks, isSpace c = true) :
    items (fuel + 1) room cs before = .ok (.arr (before.reverse ++ [item]), rest) := by
  simp [items, hvalue, skipSpace_blanks hblanks (c := ']') (by decide)]

theorem items_next {fuel room : Nat} {cs blanks next : List Char} {item : Json} {before : List Json}
    (hvalue : value fuel room cs = .ok (item, ',' :: (blanks ++ next)))
    (hblanks : ∀ c ∈ blanks, isSpace c = true) (hnext : Opens next) :
    items (fuel + 1) room cs before = items fuel room next (item :: before) := by
  simp [items, hvalue, skipSpace_head (c := ',') (by decide), skipSpace_opens hblanks hnext]

theorem skipSpace_blank {cs : List Char} (hcs : Opens cs) : skipSpace (' ' :: cs) = cs :=
  skipSpace_opens (List.forall_mem_singleton.mpr rfl) hcs

theorem members_last {fuel room : Nat} {cs blanks rest : List Char} {item : Json} (asciiOnly : Bool)
    (name : String) {before : List (String × Json)} (hcs : Opens cs)
    (hvalue : value fuel room cs = .ok (item, blanks ++ '}' :: rest))
    (hblanks : ∀ c ∈ blanks, isSpace c = true) (hnew : name ∉ Assoc.keys before) :
    members (fuel + 1) room (writeString asciiOnly name ++ ':' :: ' ' :: cs) before =
      .ok (.obj (before ++ [(name, item)]), rest) := by
  simp [members, writeString, string_written, skipSpace_head (c := ':') (by decide),
    skipSpace_blank hcs, hvalue, skipSpace_blanks hblanks (c := '}') (by decide),
    Assoc.put_absent item hnew]

theorem members_next {fuel room : Nat} {cs blanks next : List Char} {item : Json} (asciiOnly : Bool)
    (name : String) {before : List (String × Json)} (hcs : Opens cs)
    (hvalue : value fuel room cs = .ok (item, ',' :: (blanks ++ next)))
    (hblanks : ∀ c ∈ blanks, isSpace c = true) (hnext : Opens next)
    (hnew : name ∉ Assoc.keys before) :
    members (fuel + 1) room (writeString asciiOnly name ++ ':' :: ' ' :: cs) before =
      members fuel room next (before ++ [(name, item)]) := by
  simp [members, writeString, string_written, skipSpace_head (c := ':') (by decide),
    skipSpace_blank hcs, hvalue, skipSpace_head (c := ',') (by decide),
    skipSpace_opens hblanks hnext, Assoc.put_absent item hnew]

/-- An array behind one of its items: the other items, the closing bracket and what follows it. -/
def arrayRest (style : Style) (depth : Nat) (more : List Json) (rest : List Char) : List Char :=
  writeItems style (depth + 1) more ++ (style.lineBreak depth ++ ']' :: rest)

def objectRest (style : Style) (depth : Nat) (more : List (String × Json)) (rest : List Char) :
    List Char :=
  writeMembers style (depth + 1) more ++ (style.lineBreak depth ++ '}' :: rest)

section

variable {style : Style} (hstyle : style.Spaced) (depth : Nat) (rest : List Char)
include hstyle

theorem arrayRest_cons (item : Json) (more : List Json) :
    ∃ blanks, (∀ c ∈ blanks, isSpace c = true) ∧ arrayRest style depth (item :: more) rest =
      ',' :: (blanks ++ (writeAt style (depth + 1) item ++ arrayRest style depth more rest)) := by
  obtain ⟨blanks, hseparator, hblanks⟩ := separator_blanks style
  refine ⟨blanks ++ style.lineBreak (depth + 1),
    List.forall_mem_append.mpr ⟨hblanks, isSpace_lineBreak hstyle (depth + 1)⟩, ?_⟩
  simp [arrayRest, writeItems, hseparator]

theorem objectRest_cons (name : String) (item : Json) (more : List (String × Json)) :
    ∃ blanks, (∀ c ∈ blanks, isSpace c = true) ∧
      objectRest style depth ((name, item) :: more) rest =
        ',' :: (blanks ++ (writeString style.asciiOnly name ++
          ':' :: ' ' :: (writeAt style (depth + 1) item ++ objectRest style depth more rest))) := by
  obtain ⟨blanks, hseparator, hblanks⟩ := separator_blanks style
  refine ⟨blanks ++ style.lineBreak (depth + 1),
    List.forall_mem_append.mpr ⟨hblanks, isSpace_lineBreak hstyle (depth + 1)⟩, ?_⟩
  simp [objectRest, writeMembers, hseparator]

theorem atStop_arrayRest (more : List Json) : AtStop (arrayRest style depth more rest) := by
  cases more with
  | nil => exact atStop_blanks (isSpace_lineBreak hstyle depth) (by decide) rest
  | cons item more =>
    obtain ⟨blanks, -, htext⟩ := arrayRest_cons hstyle depth rest item more
    rw [htext]
    exact atStop_blanks (List.forall_mem_nil _) (by decide) _

theorem atStop_objectRest (more : List (String × Json)) :
    AtStop (objectRest style depth more rest) := by
  cases more with
  | nil => exact atStop_blanks (isSpace_lineBreak hstyle depth) (by decide) rest
  | cons member more =>
    obtain ⟨blanks, -, htext⟩ := objectRest_cons hstyle depth rest member.1 member.2 more
    rw [htext]
    exact atStop_blanks (List.forall_mem_nil _) (by decide) _

theorem value_items (fuel room : Nat) {first : Json} (hfirst : Legible first) (more : List Json) :
    value (fuel + 1) (room + 1) (writeAt style depth (.arr (first :: more)) ++ rest) =
      items fuel room (writeAt style (depth + 1) first ++ arrayRest style depth more rest) [] := by
  have htext : writeAt style depth (.arr (first :: more)) ++ rest =
      '[' :: (style.lineBreak (depth + 1) ++
        (writeAt style (depth + 1) first ++ arrayRest style depth more rest)) := by
    simp [writeAt, arrayRest]
  have hopens := (opens_writeAt style (depth + 1) hfirst).append (arrayRest style depth more rest)
  rw [htext, value_array fuel room
    (skipSpace_opens (isSpace_lineBreak hstyle (depth + 1)) hopens) hopens]

theorem value_members (fuel room : Nat) (name : String) (first : Json)
    (more : List (String × Json)) :
    value (fuel + 1) (room + 1) (writeAt style depth (.obj ((name, first) :: more)) ++ rest) =
      members fuel room (writeString style.asciiOnly name ++
        ':' :: ' ' :: (writeAt style (depth + 1) first ++ objectRest style depth more rest)) [] := by
  have htext : writeAt style depth (.obj ((name, first) :: more)) ++ rest =
      '{' :: (style.lineBreak (depth + 1) ++ (writeString style.asciiOnly name ++
        ':' :: ' ' :: (writeAt style (depth + 1) first ++ objectRest style depth more rest))) := by
    simp [writeAt, objectRest]
  have hopens := opens_writeString style.asciiOnly name
    (':' :: ' ' :: (writeAt style (depth + 1) first ++ objectRest style depth more rest))
  rw [htext, value_object fuel room
    (skipSpace_opens (isSpace_lineBreak hstyle (depth + 1)) hopens) hopens]

end

section

variable {style : Style} (hstyle : style.Spaced)
include hstyle

mutual

/-- A legible value is read back from its text wherever a value can end behind it. The fuel is
enough because two calls take at least one character. -/
theorem value_written (j : Json) (depth fuel room : Nat) (rest : List Char) (hj : Legible j)
    (hroom : j.depth ≤ room) (hfuel : 2 * (writeAt style depth j).length ≤ fuel)
    (hrest : AtStop rest) :
    value fuel room (writeAt style depth j ++ rest) = .ok (j, rest) := by
  have hpos : 0 < (writeAt style depth j).length := by
    obtain ⟨c, cs, htext, -⟩ := opens_writeAt style depth hj
    rw [htext]
    exact Nat.zero_lt_succ cs.length
  obtain ⟨fuel, rfl⟩ : ∃ f, fuel = f + 1 := ⟨fuel - 1, by omega⟩
  match j with
  | .null =>
    change value (fuel + 1) room ("null".toList ++ rest) = _
    exact value_atom fuel room rfl (by rintro c ⟨⟩; decide) hrest
  | .bool true =>
    change value (fuel + 1) room ("true".toList ++ rest) = _
    exact value_atom fuel room rfl (by rintro c ⟨⟩; decide) hrest
  | .bool false =>
    change value (fuel + 1) room ("false".toList ++ rest) = _
    exact value_atom fuel room rfl (by rintro c ⟨⟩; decide) hrest
  | .int n =>
    exact value_atom fuel room (scalar_toString hj) (head_isNumeric (isNumeric_toString n)) hrest
  | .float x =>
    exact value_atom fuel room (scalar_of_read (isNumeric_text x) hj)
      (head_isNumeric (isNumeric_text x)) hrest
  | .str s =>
    have htext : writeAt style depth (.str s) ++ rest =
        '"' :: (s.toList.flatMap (writeChar style.asciiOnly) ++ '"' :: rest) := by
      simp [writeAt, writeString]
    rw [htext]
    exact value_string fuel room (string_written style.asciiOnly s rest)
  | .arr [] =>
    obtain ⟨room, rfl⟩ := Nat.exists_eq_add_one_of_ne_zero (Nat.ne_zero_of_lt hroom)
    rfl
  | .arr (first :: more) =>
    obtain ⟨room, rfl⟩ := Nat.exists_eq_add_one_of_ne_zero (Nat.ne_zero_of_lt hroom)
    rw [Json.depth, Nat.add_le_add_iff_right] at hroom
    simp only [writeAt, List.cons_append, List.length_cons, List.length_append] at hfuel
    obtain ⟨fuel, rfl⟩ : ∃ f, fuel = f + 1 := ⟨fuel - 1, by omega⟩
    have hfirst := value_written first (depth + 1) fuel room (arrayRest style depth more rest) hj.1
      (le_trans (le_max_left ..) hroom) (by omega) (atStop_arrayRest hstyle depth rest more)
    rw [value_items hstyle depth rest (fuel + 1) room hj.1 more]
    exact items_written more first depth fuel room _ rest [] hj.2
      (le_trans (le_max_right ..) hroom) (by omega) hfirst
  | .obj [] =>
    obtain ⟨room, rfl⟩ := Nat.exists_eq_add_one_of_ne_zero (Nat.ne_zero_of_lt hroom)
    rfl
  | .obj ((name, first) :: more) =>
    obtain ⟨hnames, hfirst, hmore⟩ := hj
    obtain ⟨room, rfl⟩ := Nat.exists_eq_add_one_of_ne_zero (Nat.ne_zero_of_lt hroom)
    rw [Json.depth, Nat.add_le_add_iff_right] at hroom
    simp only [writeAt, List.cons_append, List.length_cons, List.length_append] at hfuel
    obtain ⟨fuel, rfl⟩ : ∃ f, fuel = f + 1 := ⟨fuel - 1, by omega⟩
    have hvalue := value_written first (depth + 1) fuel room (objectRest style depth more rest)
      hfirst (le_trans (le_max_left ..) hroom) (by omega) (atStop_objectRest hstyle depth rest more)
    rw [value_members hstyle depth rest (fuel + 1) room name first more]
    exact members_written more name first depth fuel room _ rest [] hmore hnames
      (le_trans (le_max_right ..) hroom) (by omega) ((opens_writeAt style _ hfirst).append _) hvalue

theorem items_written (more : List Json) (item : Json) (depth fuel room : Nat)
    (cs rest : List Char) (before : List Json) (hmore : LegibleItems more)
    (hroom : depthOfItems more ≤ room)
    (hfuel : 2 * (writeItems style (depth + 1) more).length ≤ fuel)
    (hvalue : value fuel room cs = .ok (item, arrayRest style depth more rest)) :
    items (fuel + 1) room cs before = .ok (.arr (before.reverse ++ item :: more), rest) := by
  match more with
  | [] => exact items_last hvalue (isSpace_lineBreak hstyle depth)
  | second :: more =>
    obtain ⟨blanks, hblanks, htext⟩ := arrayRest_cons hstyle depth rest second more
    rw [htext] at hvalue
    obtain ⟨hsecond, hmore⟩ := hmore
    have hopens := (opens_writeAt style (depth + 1) hsecond).append (arrayRest style depth more rest)
    have hpos : 0 < style.separator.length := by
      obtain ⟨blanks, hseparator, -⟩ := separator_blanks style
      rw [hseparator]
      exact Nat.zero_lt_succ blanks.length
    simp only [writeItems, List.length_append] at hfuel
    obtain ⟨fuel, rfl⟩ : ∃ f, fuel = f + 1 := ⟨fuel - 1, by omega⟩
    have hnext := value_written second (depth + 1) fuel room (arrayRest style depth more rest)
      hsecond (le_trans (le_max_left ..) hroom) (by omega) (atStop_arrayRest hstyle depth rest more)
    rw [items_next hvalue hblanks hopens,
      items_written more second depth fuel room _ rest (item :: before) hmore
        (le_trans (le_max_right ..) hroom) (by omega) hnext,
      List.reverse_cons, List.append_assoc, List.singleton_append]

theorem members_written (more : List (String × Json)) (name : String) (item : Json)
    (depth fuel room : Nat) (cs rest : List Char) (before : List (String × Json))
    (hmore : LegibleMembers more) (hnames : (before ++ (name, item) :: more |>.map (·.1)).Nodup)
    (hroom : depthOfMembers more ≤ room)
    (hfuel : 2 * (writeMembers style (depth + 1) more).length ≤ fuel) (hcs : Opens cs)
    (hvalue : value fuel room cs = .ok (item, objectRest style depth more rest)) :
    members (fuel + 1) room (writeString style.asciiOnly name ++ ':' :: ' ' :: cs) before =
      .ok (.obj (before ++ (name, item) :: more), rest) := by
  have hnew : name ∉ Assoc.keys before := by
    rw [List.map_append, List.map_cons, List.nodup_append] at hnames
    exact fun hmem => hnames.2.2 name hmem name List.mem_cons_self rfl
  match more with
  | [] => exact members_last style.asciiOnly name hcs hvalue (isSpace_lineBreak hstyle depth) hnew
  | (second, next) :: more =>
    obtain ⟨blanks, hblanks, htext⟩ := objectRest_cons hstyle depth rest second next more
    rw [htext] at hvalue
    obtain ⟨hlegible, hmore⟩ := hmore
    simp only [writeMembers, List.length_append, List.length_cons] at hfuel
    obtain ⟨fuel, rfl⟩ : ∃ f, fuel = f + 1 := ⟨fuel - 1, by omega⟩
    have hnext := value_written next (depth + 1) fuel room (objectRest style depth more rest)
      hlegible (le_trans (le_max_left ..) hroom) (by omega)
      (atStop_objectRest hstyle depth rest more)
    rw [← List.singleton_append, ← List.append_assoc] at hnames
    rw [members_next style.asciiOnly name hcs hvalue hblanks (opens_writeString ..) hnew,
      members_written more second next depth fuel room _ rest (before ++ [(name, item)]) hmore
        hnames (le_trans (le_max_right ..) hroom) (by omega)
        ((opens_writeAt style _ hlegible).append _) hnext,
      List.append_assoc, List.singleton_append]

end

theorem read_write {j : Json} (hj : Legible j) (hdepth : j.depth ≤ maxDepth) :
    read (write style j).toList = .ok j := by
  have hopens := opens_writeAt style 0 hj
  have hvalue := value_written hstyle j 0 (2 * (writeAt style 0 j).length + 2) maxDepth [] hj hdepth
    (by omega) (by rintro c ⟨⟩)
  have hskip : skipSpace (writeAt style 0 j) = writeAt style 0 j :=
    skipSpace_opens (List.forall_mem_nil _) hopens
  have hmark : ¬ (writeAt style 0 j).head? = some (Char.ofNat 0xFEFF) := by
    obtain ⟨c, rest, htext, -, hc⟩ := hopens
    rw [htext]
    exact fun h => hc (Option.some.inj h)
  rw [List.append_nil] at hvalue
  rw [write, String.toList_ofList, read, if_neg hmark, hskip, hvalue]
  rfl

theorem ne_return_lineBreak (depth : Nat) : ∀ c ∈ style.lineBreak depth, c ≠ '\r' := by
  intro c hc
  obtain rfl | rfl := mem_lineBreak hstyle hc <;> decide

omit hstyle in
theorem ne_return_separator : ∀ c ∈ style.separator, c ≠ '\r' := by
  unfold Style.separator
  split <;> simp

mutual

theorem ne_return_writeAt (j : Json) (depth : Nat) : ∀ c ∈ writeAt style depth j, c ≠ '\r' := by
  match j with
  | .null => simp [writeAt]
  | .bool b => cases b <;> simp [writeAt]
  | .int n => exact fun c hc => ne_of_isNumeric (isNumeric_toString n c hc) (by decide)
  | .float x => exact fun c hc => ne_of_isNumeric (isNumeric_text x c hc) (by decide)
  | .str s => exact ne_return_writeString style.asciiOnly s
  | .arr [] => simp [writeAt]
  | .arr (first :: more) =>
    simp only [writeAt, List.cons_append, List.forall_mem_cons, List.forall_mem_append, and_assoc]
    exact ⟨by decide, ne_return_lineBreak hstyle _, ne_return_writeAt first _,
      ne_return_writeItems more _, ne_return_lineBreak hstyle _, by decide, by simp⟩
  | .obj [] => simp [writeAt]
  | .obj ((name, first) :: more) =>
    simp only [writeAt, List.cons_append, List.forall_mem_cons, List.forall_mem_append, and_assoc]
    exact ⟨by decide, ne_return_lineBreak hstyle _, ne_return_writeString _ name, by decide,
      by decide, ne_return_writeAt first _, ne_return_writeMembers more _,
      ne_return_lineBreak hstyle _, by decide, by simp⟩

theorem ne_return_writeItems (more : List Json) (depth : Nat) :
    ∀ c ∈ writeItems style depth more, c ≠ '\r' := by
  match more with
  | [] => exact List.forall_mem_nil _
  | item :: more =>
    simp only [writeItems, List.forall_mem_append, and_assoc]
    exact ⟨ne_return_separator, ne_return_lineBreak hstyle _, ne_return_writeAt item _,
      ne_return_writeItems more _⟩

theorem ne_return_writeMembers (more : List (String × Json)) (depth : Nat) :
    ∀ c ∈ writeMembers style depth more, c ≠ '\r' := by
  match more with
  | [] => exact List.forall_mem_nil _
  | (name, item) :: more =>
    simp only [writeMembers, List.forall_mem_cons, List.forall_mem_append, and_assoc]
    exact ⟨ne_return_separator, ne_return_lineBreak hstyle _, ne_return_writeString _ name,
      by decide, by decide, ne_return_writeAt item _, ne_return_writeMembers more _⟩

end

end

end ReviewDiff.Json
