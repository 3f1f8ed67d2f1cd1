import ReviewDiff.Files.Tree
import ReviewDiff.Proofs.Path.Way
import Mathlib.Data.List.Basic

/-!
# Writing beside a file and renaming over it

Replacing what stands at a place shows at that place and nowhere beside it, and as long as no
directory is replaced every directory stays one, so that paths lead where they led before. A file
that is written beside another one and renamed over it is therefore read under the name of the
other one.
-/

set_option autoImplicit false

namespace ReviewDiff.FileTree

section

variable (entries : List (String × FileTree)) (name : String)

theorem named?_cons (e : String × FileTree) :
    named? (e :: entries) name = if e.1 = name then some e.2 else named? entries name := by
  by_cases h : e.1 = name <;> simp [named?, h]

theorem named?_setEntry_self (tree : FileTree) :
    named? (setEntry entries name tree) name = some tree := by
  induction entries with
  | nil => rw [setEntry, named?_cons, if_pos rfl]
  | cons e rest ih => by_cases h : e.1 = name <;> simp [setEntry, named?_cons, h, ih]

theorem named?_setEntry_ne (tree : FileTree) {other : String} (hne : other ≠ name) :
    named? (setEntry entries name tree) other = named? entries other := by
  induction entries with
  | nil => simp [setEntry, named?_cons, hne.symm]
  | cons e rest ih => by_cases h : e.1 = name <;> simp [setEntry, named?_cons, h, hne.symm, ih]

theorem named?_filter_self :
    named? (entries.filter fun e => !decide (e.1 = name)) name = none := by
  induction entries with
  | nil => rfl
  | cons e rest ih => by_cases h : e.1 = name <;> simp [named?_cons, h, ih]

theorem named?_filter_ne {other : String} (hne : other ≠ name) :
    named? (entries.filter fun e => !decide (e.1 = name)) other = named? entries other := by
  induction entries with
  | nil => rfl
  | cons e rest ih => by_cases h : e.1 = name <;> simp [named?_cons, h, hne.symm, ih]

/-- All that a replacement below a directory does to the entries of the directory. -/
theorem replace_dir (what : Option FileTree) (rest : List String) :
    ∃ after, replace what (name :: rest) (.dir entries) = .dir after ∧
      named? after name =
        (if rest = [] then what else (named? entries name).map (replace what rest)) ∧
      ∀ other, other ≠ name → named? after other = named? entries other := by
  match rest, what with
  | [], some tree =>
    exact ⟨_, rfl, named?_setEntry_self entries name tree,
      fun other => named?_setEntry_ne entries name tree⟩
  | [], none =>
    exact ⟨_, rfl, named?_filter_self entries name, fun other => named?_filter_ne entries name⟩
  | second :: rest, what =>
    cases hnext : named? entries name with
    | none => exact ⟨entries, by simp [replace, hnext], by simp [hnext], fun _ _ => rfl⟩
    | some next =>
      refine ⟨setEntry entries name (replace what (second :: rest) next), by simp [replace, hnext],
        ?_, fun other => named?_setEntry_ne entries name _⟩
      rw [named?_setEntry_self, if_neg (List.cons_ne_nil _ _), Option.map_some]

end

section

variable {entries : List (String × FileTree)} {name : String}

theorem walk_named {next : FileTree} (h : named? entries name = some next) (rest : List String) :
    walk (.dir entries) (name :: rest) = walk next rest := by
  rw [walk, h]

theorem walk_missing (h : named? entries name = none) (rest : List String) :
    walk (.dir entries) (name :: rest) = if rest.isEmpty then .ok none else .error .missing := by
  rw [walk, h]

end

theorem walk_replace_self {tree : FileTree} {place : List String} {found : Option FileTree}
    (h : tree.walk place = .ok found) (next : FileTree) :
    (tree.replace (some next) place).walk place = .ok (some next) := by
  induction place generalizing tree with
  | nil => rfl
  | cons name rest ih =>
    cases tree with
    | file bytes => cases h
    | dir entries =>
      obtain ⟨after, hafter, hself, -⟩ := replace_dir entries name (some next) rest
      rw [hafter]
      by_cases hrest : rest = []
      · subst hrest
        exact walk_named hself []
      · rw [if_neg hrest] at hself
        cases hinner : named? entries name with
        | none => simp [walk_missing hinner, hrest] at h
        | some inner =>
          rw [hinner] at hself
          rw [walk_named hinner] at h
          rw [walk_named hself]
          exact ih h

theorem walk_removed {tree : FileTree} {directory : List String} {name : String}
    {found : Option FileTree} (h : tree.walk (directory ++ [name]) = .ok found) :
    (tree.replace none (directory ++ [name])).walk (directory ++ [name]) = .ok none := by
  induction directory generalizing tree with
  | nil =>
    cases tree with
    | file bytes => cases h
    | dir entries =>
      obtain ⟨after, hafter, hself, -⟩ := replace_dir entries name none []
      rw [List.nil_append, hafter]
      exact walk_missing hself []
  | cons first directory ih =>
    cases tree with
    | file bytes => cases h
    | dir entries =>
      obtain ⟨after, hafter, hself, -⟩ := replace_dir entries first none (directory ++ [name])
      rw [if_neg (by simp)] at hself
      rw [List.cons_append] at h ⊢
      rw [hafter]
      cases hinner : named? entries first with
      | none => simp [walk_missing hinner] at h
      | some inner =>
        rw [hinner] at hself
        rw [walk_named hinner] at h
        rw [walk_named hself]
        exact ih h

theorem walk_replace_beside (what : Option FileTree) {name other : String} (hne : other ≠ name)
    (tree : FileTree) (directory : List String) :
    (tree.replace what (directory ++ [name])).walk (directory ++ [other]) =
      tree.walk (directory ++ [other]) := by
  induction directory generalizing tree with
  | nil =>
    cases tree with
    | file bytes => rfl
    | dir entries =>
      obtain ⟨after, hafter, -, hothers⟩ := replace_dir entries name what []
      rw [List.nil_append, List.nil_append, hafter, walk, walk, hothers other hne]
  | cons first directory ih =>
    cases tree with
    | file bytes => rfl
    | dir entries =>
      obtain ⟨after, hafter, hself, -⟩ := replace_dir entries first what (directory ++ [name])
      rw [if_neg (by simp)] at hself
      rw [List.cons_append, List.cons_append, hafter]
      cases hinner : named? entries first with
      | none =>
        rw [hinner] at hself
        rw [walk_missing hinner, walk_missing hself]
      | some inner =>
        rw [hinner] at hself
        rw [walk_named hinner, walk_named hself]
        exact ih inner

/-- Whether every directory of one tree is one of another. -/
def KeepsDirs (before after : FileTree) : Prop :=
  ∀ place entries, before.walk place = .ok (some (.dir entries)) →
    ∃ entries', after.walk place = .ok (some (.dir entries'))

theorem KeepsDirs.trans {a b c : FileTree} (hab : KeepsDirs a b) (hbc : KeepsDirs b c) :
    KeepsDirs a c := by
  intro place entries h
  obtain ⟨entries', h'⟩ := hab place entries h
  exact hbc place entries' h'

theorem keepsDirs_replace (what : Option FileTree) {tree : FileTree} {place : List String}
    (h : ∀ entries, tree.walk place ≠ .ok (some (.dir entries))) :
    KeepsDirs tree (tree.replace what place) := by
  intro way entries hway
  induction place generalizing tree way with
  | nil =>
    cases tree with
    | file bytes => cases way <;> cases hway
    | dir entries => exact absurd rfl (h entries)
  | cons name rest ih =>
    cases tree with
    | file bytes => cases way <;> cases hway
    | dir inside =>
      obtain ⟨after, hafter, hself, hothers⟩ := replace_dir inside name what rest
      rw [hafter]
      cases way with
      | nil => exact ⟨after, rfl⟩
      | cons first way =>
        by_cases hfirst : first = name
        · subst hfirst
          cases hnext : named? inside first with
          | none =>
            rw [walk_missing hnext] at hway
            split_ifs at hway
            cases hway
          | some next =>
            rw [walk_named hnext] at hway
            simp only [walk_named hnext] at h
            by_cases hrest : rest = []
            · -- What was replaced is a file, and no way leads through a file.
              subst hrest
              cases next with
              | file bytes => cases way <;> cases hway
              | dir below => exact absurd rfl (h below)
            · rw [if_neg hrest, hnext] at hself
              rw [walk_named hself]
              exact ih h way hway
        · rw [walk, hothers first hfirst]
          exact ⟨entries, hway⟩

theorem locate_append (tree : FileTree) (place : List String)
    (front rest : List (Path.Component Char)) :
    tree.locate place (front ++ rest) =
      (tree.locate place front).bind fun reached => tree.locate reached rest := by
  induction front generalizing place with
  | nil => rfl
  | cons c front ih =>
    rw [List.cons_append, locate, locate]
    cases tree.walk place with
    | error obstacle => rfl
    | ok found =>
      match found with
      | none => rfl
      | some (.file _) => rfl
      | some (.dir _) =>
        simp only [ih]
        split_ifs <;> rfl

theorem locate_keeps {before after : FileTree} (hkeeps : KeepsDirs before after)
    {place reached : List String} {way : List (Path.Component Char)}
    (h : before.locate place way = .ok reached) : after.locate place way = .ok reached := by
  induction way generalizing place with
  | nil => exact h
  | cons c way ih =>
    rw [locate] at h ⊢
    cases hfound : before.walk place with
    | error obstacle => simp [hfound] at h
    | ok found =>
      match found with
      | none => simp [hfound] at h
      | some (.file _) => simp [hfound] at h
      | some (.dir entries) =>
        obtain ⟨entries', hafter⟩ := hkeeps place entries hfound
        simp only [hfound] at h
        simp only [hafter]
        split_ifs at h ⊢
        · exact ih h
        · exact ih h
        · exact ih h

theorem placeOf_keeps {before after : FileTree} (hkeeps : KeepsDirs before after) {path : String}
    {place : List String} (h : before.placeOf path = .ok place) :
    after.placeOf path = .ok place := by
  rw [placeOf] at h ⊢
  split_ifs at h ⊢
  exact locate_keeps hkeeps h

theorem look_iff {tree : FileTree} {path : String} {place : List String}
    {found : Option FileTree} :
    tree.look path = .ok (place, found) ↔
      tree.placeOf path = .ok place ∧ tree.walk place = .ok found := by
  constructor
  · intro h
    cases hplace : tree.placeOf path with
    | error obstacle => simp [look, hplace, bind, Except.bind] at h
    | ok reached =>
      cases hwalk : tree.walk reached with
      | error obstacle => simp [look, hplace, hwalk, bind, Except.bind] at h
      | ok what =>
        simp only [look, hplace, hwalk, bind, Except.bind, pure, Except.pure, Except.ok.injEq,
          Prod.mk.injEq] at h
        obtain ⟨rfl, rfl⟩ := h
        exact ⟨rfl, hwalk⟩
  · rintro ⟨hplace, hwalk⟩
    simp [look, hplace, hwalk, bind, Except.bind, pure, Except.pure]

def Beside (path other : String) : Prop :=
  ∃ front name otherName, Path.components path.toList = front ++ [name] ∧
    Path.components other.toList = front ++ [otherName] ∧ Path.IsName name ∧
    Path.IsName otherName ∧ name ≠ otherName

theorem placeOf_name {tree : FileTree} {path : String} {place : List String}
    {front : List (Path.Component Char)} {name : Path.Component Char}
    (hpath : Path.components path.toList = front ++ [name]) (hname : Path.IsName name)
    (h : tree.placeOf path = .ok place) :
    ∃ directory, tree.locate [] front = .ok directory ∧
      place = directory ++ [String.ofList name] := by
  rw [placeOf, hpath, locate_append] at h
  split_ifs at h
  cases hfront : tree.locate [] front with
  | error obstacle => simp [hfront, Except.bind] at h
  | ok directory =>
    refine ⟨directory, rfl, ?_⟩
    rw [hfront, Except.bind, locate, hname.1, hname.2.1] at h
    cases hwalk : tree.walk directory with
    | error obstacle => simp [hwalk] at h
    | ok found =>
      match found with
      | none => simp [hwalk] at h
      | some (.file _) => simp [hwalk] at h
      | some (.dir _) =>
        simp only [hwalk, Bool.false_eq_true, if_false] at h
        split_ifs at h
        exact (Except.ok.inj h).symm

theorem look_written {tree written : FileTree} {path : String} {bytes : Bytes}
    (h : tree.write path bytes = .ok written) :
    ∃ place, written.look path = .ok (place, some (.file bytes)) := by
  rw [write] at h
  split at h
  · cases h
  · next place found hdir hlook =>
    obtain ⟨hplace, hwalk⟩ := look_iff.mp hlook
    obtain rfl := Except.ok.inj h
    have hkeeps : KeepsDirs tree (tree.replace (some (.file bytes)) place) :=
      keepsDirs_replace _ fun entries hentries => by
        rw [hwalk] at hentries
        exact hdir entries (Except.ok.inj hentries)
    exact ⟨place, look_iff.mpr ⟨placeOf_keeps hkeeps hplace, walk_replace_self hwalk _⟩⟩
  · cases h

/-- A file that is renamed over another one beside it is found at the path of the other one. -/
theorem look_renamed {tree renamed : FileTree} {path beside : String} {old : List String}
    {bytes : Bytes} (hbeside : Beside path beside)
    (hsource : tree.look beside = .ok (old, some (.file bytes)))
    (h : tree.rename beside path = .ok renamed) :
    ∃ place, renamed.look path = .ok (place, some (.file bytes)) := by
  obtain ⟨new, found, htarget, hdir, hrenamed⟩ : ∃ new found, tree.look path = .ok (new, found) ∧
      (∀ entries, found ≠ some (.dir entries)) ∧
      renamed = (tree.replace (some (.file bytes)) new).replace none old := by
    rw [rename, hsource] at h
    cases htarget : tree.look path with
    | error obstacle => simp [htarget] at h
    | ok target =>
      obtain ⟨new, found⟩ := target
      simp only [htarget] at h
      split at h
      · cases h
      · next hdir => exact ⟨new, found, rfl, hdir, (Except.ok.inj h).symm⟩
  obtain ⟨hnew, hwalk⟩ := look_iff.mp htarget
  obtain ⟨hold, hfile⟩ := look_iff.mp hsource
  obtain ⟨front, name, other, hpath, hother, hname, hothername, hne⟩ := hbeside
  obtain ⟨directory, hfront, hnewplace⟩ := placeOf_name hpath hname hnew
  obtain ⟨directory', hfront', holdplace⟩ := placeOf_name hother hothername hold
  obtain rfl : directory = directory' := Except.ok.inj (hfront.symm.trans hfront')
  have hnames : String.ofList name ≠ String.ofList other := fun h => hne (String.ofList_injective h)
  have hover : KeepsDirs tree (tree.replace (some (.file bytes)) new) :=
    keepsDirs_replace _ fun entries hentries => by
      rw [hwalk] at hentries
      exact hdir entries (Except.ok.inj hentries)
  have haway : KeepsDirs (tree.replace (some (.file bytes)) new) renamed := by
    rw [hrenamed]
    refine keepsDirs_replace _ fun entries hentries => ?_
    rw [hnewplace, holdplace, walk_replace_beside _ hnames.symm, ← holdplace, hfile] at hentries
    cases hentries
  refine ⟨new, look_iff.mpr ⟨placeOf_keeps (hover.trans haway) hnew, ?_⟩⟩
  have hself := walk_replace_self hwalk (.file bytes)
  rw [hrenamed, holdplace, hnewplace, walk_replace_beside _ hnames, ← hnewplace]
  exact hself

section

variable {tree : FileTree} {path : String} {place : List String} {bytes : Bytes}
  (h : tree.look path = .ok (place, some (.file bytes)))
include h

theorem read_of_look : tree.read path = .ok bytes := by
  rw [read, h]

theorem isThere_of_look : tree.isThere path = .ok true := by
  rw [isThere, find?, h]
  rfl

end

end ReviewDiff.FileTree
