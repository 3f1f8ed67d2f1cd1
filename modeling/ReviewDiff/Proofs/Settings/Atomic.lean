import ReviewDiff.Proofs.Files.Dirs
import ReviewDiff.Proofs.Settings.Stored

/-!
# A save is atomic

A save leaves the complete document at the path of the settings, or it fails and what stood there
stands there still; nothing that it wrote beside the settings stays. Once there is a home directory
every failure has one and the same kind. Making the home directory comes before: a file at its place,
or on the way to it, is told under the kind that the file system gives.
-/

set_option autoImplicit false

namespace ReviewDiff.Settings

open FileTree
open PathChar
open ReviewDiff.Path (Component IsName)

/-- The names of a home directory: a path from the root without `..`, within the limits of a file
system. -/
structure IsHome (home : String) (names : List (Component Char)) : Prop where
  absolute : Path.isAbsolute home.toList = true
  named : (Path.components home.toList).filter (fun c => !Path.isEmptyStep c) = names
  fit : Fit names
  short : (settingsPath home ++ ".tmp").utf8ByteSize ≤ pathLimit

variable {home : String} {names : List (Component Char)}

theorem settingsName_fits : IsName "config.json".toList ∧
    (String.ofList "config.json".toList).utf8ByteSize ≤ nameLimit := by
  refine ⟨⟨?_, ?_, ?_⟩, ?_⟩ <;> decide

theorem besideName_fits : IsName "config.json.tmp".toList ∧
    (String.ofList "config.json.tmp".toList).utf8ByteSize ≤ nameLimit := by
  refine ⟨⟨?_, ?_, ?_⟩, ?_⟩ <;> decide

theorem placeNamed_settings (names : List (Component Char)) :
    placeNamed (names ++ ["config.json".toList]) = placeNamed names ++ ["config.json"] :=
  placeNamed_concat names _

theorem placeNamed_beside (names : List (Component Char)) :
    placeNamed (names ++ ["config.json.tmp".toList]) = placeNamed names ++ ["config.json.tmp"] :=
  placeNamed_concat names _

namespace IsHome

variable (h : IsHome home names)
include h

theorem path_text : ∃ slashes, (settingsPath home).toList =
    List.replicate (slashes + 1) slash ++ Path.join (names ++ ["config.json".toList]) := by
  obtain ⟨slashes, hchild⟩ := Path.child_names h.absolute settingsName_fits.1
  rw [h.named] at hchild
  exact ⟨slashes, by rw [settingsPath, String.toList_ofList]; exact hchild⟩

theorem components_path : ∃ slashes, ∀ tail : String, '/' ∉ tail.toList →
    Path.components (settingsPath home ++ tail).toList =
      List.replicate slashes [] ++ (names ++ ["config.json".toList ++ tail.toList]) := by
  obtain ⟨slashes, hpath⟩ := h.path_text
  obtain ⟨above, habove⟩ := Path.components_child home.toList settingsName_fits.1
  have hsettings := habove [] (by decide)
  have hnames : ∀ c ∈ names ++ ["config.json".toList], IsName c := fun c hc =>
    (h.fit.concat settingsName_fits c hc).1
  rw [settingsPath, String.toList_ofList] at hpath
  rw [List.append_nil, List.append_nil, hpath, Path.components_slashes (by simp) hnames,
    ← List.append_assoc] at hsettings
  refine ⟨slashes + 1, fun tail htail => ?_⟩
  rw [settingsPath, String.toList_append, String.toList_ofList, habove _ htail,
    ← (List.append_inj' hsettings rfl).1, List.append_assoc]

theorem leads : Leads (settingsPath home) (names ++ ["config.json".toList]) where
  short := by
    have := h.short
    rw [String.utf8ByteSize_append] at this
    omega
  fit := h.fit.concat settingsName_fits
  named := by simp
  components := by
    obtain ⟨slashes, hcomponents⟩ := h.components_path
    exact ⟨slashes, by simpa using hcomponents "" (by decide)⟩

theorem leads_beside : Leads (settingsPath home ++ ".tmp") (names ++ ["config.json.tmp".toList]) where
  short := h.short
  fit := h.fit.concat besideName_fits
  named := by simp
  components := by
    obtain ⟨slashes, hcomponents⟩ := h.components_path
    exact ⟨slashes, hcomponents ".tmp" (by decide)⟩

theorem makeDirs_names : ∃ slashes, ∀ tree : FileTree,
    tree.makeDirs (String.ofList (Path.parent (settingsPath home).toList)) =
      tree.makeLevels [] slashes names.reverse := by
  obtain ⟨slashes, hpath⟩ := h.path_text
  have hnames : ∀ c ∈ names, IsName c := fun c hc => (h.fit c hc).1
  have hparent : Path.parent (settingsPath home).toList = slash :: Path.join names := by
    rw [hpath, Path.parent_slashes hnames settingsName_fits.1]
  have hshort : ¬ pathLimit < (String.ofList (slash :: Path.join names)).utf8ByteSize := by
    obtain ⟨front, rest, hbehind⟩ := Path.slashes_behind names "config.json".toList slashes
    have hsize := h.leads.short
    rw [← String.ofList_toList (s := settingsPath home), hpath, hbehind, String.ofList_append,
      String.ofList_append, String.utf8ByteSize_append, String.utf8ByteSize_append] at hsize
    omega
  have hparts : (Path.components (slash :: Path.join names)).filter
      (fun c => !Path.isEmptyStep c) = names := by
    rw [Path.components_slash, List.filter_cons_of_neg (by decide)]
    by_cases hne : names = []
    · subst hne
      rfl
    · rw [Path.components_join hne hnames, List.filter_eq_self]
      intro c hc
      simp [(hnames c hc).1]
  refine ⟨Path.rootSlashes (slash :: Path.join names), fun tree => ?_⟩
  rw [hparent, makeDirs, makeDirsFrom, if_neg hshort]
  simp only [String.toList_ofList, hparts]
  rfl

end IsHome

theorem cleanUp_leads {path : String} {names : List (Component Char)} (h : Leads path names)
    (tree : FileTree) :
    cleanUp tree path =
      match tree.walk (placeNamed names) with
      | .ok (some (.file _)) => tree.replace none (placeNamed names)
      | _ => tree := by
  rw [cleanUp, remove, look_leads h]
  cases tree.walk (placeNamed names) with
  | error obstacle => rfl
  | ok found =>
    rcases found with _ | bytes | inside <;> rfl

def saveIn (s : Settings) (path : String) (made : FileTree) : Except SaveFault Unit × FileTree :=
  match made.write (path ++ ".tmp") (Utf8.encodeText s.fileText) with
  | .error e => (.error (.document e), cleanUp made (path ++ ".tmp"))
  | .ok written =>
    if s.toJson.hasLong then (.error .tooManyDigits, cleanUp written (path ++ ".tmp"))
    else match written.rename (path ++ ".tmp") path with
      | .error e => (.error (.document e), cleanUp written (path ++ ".tmp"))
      | .ok renamed => (.ok (), renamed)

theorem save_eq (s : Settings) (home : String) (tree : FileTree) :
    s.save home tree =
      match tree.makeDirs (String.ofList (Path.parent (settingsPath home).toList)) with
      | .error e => (.error (.directory e), tree)
      | .ok made => s.saveIn (settingsPath home) made := by
  unfold save
  dsimp only
  rcases tree.makeDirs (String.ofList (Path.parent (settingsPath home).toList)) with e | made
  · rfl
  · dsimp only
    unfold saveIn
    rcases made.write (settingsPath home ++ ".tmp") (Utf8.encodeText s.fileText) with e | written
    · rfl
    · refine ite_congr rfl (fun _ => rfl) fun _ => ?_
      rcases written.rename (settingsPath home ++ ".tmp") (settingsPath home) <;> rfl

/-- What a save in a home directory comes to: the document in its place, or a failure of one kind and
what stood there before; and no file beside. -/
def Ends (s : Settings) (directory : List String) (made : FileTree)
    (result : Except SaveFault Unit × FileTree) : Prop :=
  (∀ bytes, result.2.standing (directory ++ ["config.json.tmp"]) ≠ some (.file bytes)) ∧
    (result.1 = .ok () ∧ result.2.standing (directory ++ ["config.json"]) =
        some (.file (Utf8.encodeText s.fileText)) ∨
      ∃ e, result.1 = .error e ∧ e.kind = "RuntimeError" ∧
        result.2.standing (directory ++ ["config.json"]) =
          made.standing (directory ++ ["config.json"]))

variable {s : Settings} {directory : List String} {made : FileTree}

theorem ends_removed {found : Option FileTree} {bytes : Bytes} {e : SaveFault}
    (hbeside : made.walk (directory ++ ["config.json.tmp"]) = .ok found)
    (he : e.kind = "RuntimeError") :
    Ends s directory made (.error e,
      (made.replace (some (.file bytes)) (directory ++ ["config.json.tmp"])).replace none
        (directory ++ ["config.json.tmp"])) := by
  have hwritten := walk_replace_self hbeside (.file bytes)
  refine ⟨fun bytes hfile => ?_, .inr ⟨e, rfl, he, ?_⟩⟩
  · rw [standing, walk_removed hwritten] at hfile
    cases hfile
  · rw [standing, standing, walk_replace_beside none (by decide),
      walk_replace_beside _ (by decide)]

theorem ends_renamed {found target : Option FileTree} {bytes : Bytes}
    (hbeside : made.walk (directory ++ ["config.json.tmp"]) = .ok found)
    (hplace : made.walk (directory ++ ["config.json"]) = .ok target) :
    Ends s directory made (.ok (),
      ((made.replace (some (.file bytes)) (directory ++ ["config.json.tmp"])).replace
        (some (.file (Utf8.encodeText s.fileText))) (directory ++ ["config.json"])).replace none
          (directory ++ ["config.json.tmp"])) := by
  have hwritten := walk_replace_self hbeside (.file bytes)
  have hbetween : (made.replace (some (.file bytes)) (directory ++ ["config.json.tmp"])).walk
      (directory ++ ["config.json"]) = .ok target := by
    rw [walk_replace_beside _ (by decide), hplace]
  have hover := walk_replace_self hbetween (.file (Utf8.encodeText s.fileText))
  rw [← walk_replace_beside (some (.file (Utf8.encodeText s.fileText)))
    (show "config.json.tmp" ≠ "config.json" by decide)] at hwritten
  refine ⟨fun bytes hfile => ?_, .inl ⟨rfl, ?_⟩⟩
  · rw [standing, walk_removed hwritten] at hfile
    cases hfile
  · rw [standing, walk_replace_beside none (by decide), hover]

theorem saveIn_ends {path : String} (hpath : Leads path (names ++ ["config.json".toList]))
    (hbeside : Leads (path ++ ".tmp") (names ++ ["config.json.tmp".toList])) (s : Settings)
    {inside : List (String × FileTree)}
    (hhome : made.walk (placeNamed names) = .ok (some (.dir inside))) :
    Ends s (placeNamed names) made (s.saveIn path made) := by
  have hplace : made.walk (placeNamed names ++ ["config.json"]) =
      .ok (named? inside "config.json") := by
    rw [walk_concat, hhome]
    rfl
  have hfound : made.walk (placeNamed names ++ ["config.json.tmp"]) =
      .ok (named? inside "config.json.tmp") := by
    rw [walk_concat, hhome]
    rfl
  by_cases hdir : ∃ entries, named? inside "config.json.tmp" = some (.dir entries)
  · -- Nothing is written over a directory, and nothing is removed.
    obtain ⟨entries, hdir⟩ := hdir
    rw [hdir] at hfound
    have hsave : s.saveIn path made =
        (.error (.document ⟨.isDirectory, path ++ ".tmp", none⟩), made) := by
      simp only [saveIn, write_leads hbeside, cleanUp_leads hbeside, placeNamed_beside, hfound]
    rw [hsave]
    refine ⟨fun bytes hfile => ?_, .inr ⟨_, rfl, rfl, rfl⟩⟩
    rw [standing, hfound] at hfile
    cases hfile
  · have hwrite : made.write (path ++ ".tmp") (Utf8.encodeText s.fileText) =
        .ok (made.replace (some (.file (Utf8.encodeText s.fileText)))
          (placeNamed names ++ ["config.json.tmp"])) := by
      rw [write_leads hbeside, placeNamed_beside, hfound]
      rcases hinside : named? inside "config.json.tmp" with _ | bytes | entries
      · rfl
      · rfl
      · exact absurd ⟨entries, hinside⟩ hdir
    have hwritten := walk_replace_self hfound (.file (Utf8.encodeText s.fileText))
    have htarget : (made.replace (some (.file (Utf8.encodeText s.fileText)))
        (placeNamed names ++ ["config.json.tmp"])).walk (placeNamed names ++ ["config.json"]) =
          .ok (named? inside "config.json") := by
      rw [walk_replace_beside _ (by decide), hplace]
    rw [← placeNamed_beside] at hwritten
    rw [← placeNamed_settings, ← placeNamed_beside] at htarget
    rw [saveIn, hwrite]
    dsimp only
    rw [cleanUp_leads hbeside, ← placeNamed_beside, hwritten]
    split
    · rw [placeNamed_beside]
      exact ends_removed hfound rfl
    · obtain hrename | hrename := rename_leads hbeside hpath hwritten htarget
      · rw [hrename, placeNamed_beside]
        exact ends_removed hfound rfl
      · rw [hrename, placeNamed_beside, placeNamed_settings]
        exact ends_renamed hfound hplace

def Blocked (tree : FileTree) (place rest : List String) : Prop :=
  ∃ front bytes, place = front ++ rest ∧ tree.walk front = .ok (some (.file bytes))

theorem blocked_walk {tree : FileTree} {place rest : List String} (h : Blocked tree place rest) :
    tree.walk place = .error .notDirectory ∨ ∃ bytes, tree.walk place = .ok (some (.file bytes)) := by
  obtain ⟨front, bytes, rfl, hfile⟩ := h
  by_cases hrest : rest = []
  · rw [hrest, List.append_nil]
    exact .inr ⟨bytes, hfile⟩
  · exact .inl (walk_behind hfile hrest)

structure SavesAtomically (s : Settings) (home : String) (names : List (Component Char))
    (tree : FileTree) : Prop where
  complete : (s.save home tree).1 = .ok () →
    (s.save home tree).2.find? (settingsPath home) =
      .ok (some (.file (Utf8.encodeText s.fileText)))
  untouched : ∀ e, (s.save home tree).1 = .error e →
    (s.save home tree).2.find? (settingsPath home) = tree.find? (settingsPath home)
  tidy : ∀ bytes, (s.save home tree).2.find? (settingsPath home ++ ".tmp") ≠ .ok (some (.file bytes))
  /-- Every failure has one kind, unless a file stands in the way of the home directory. -/
  kind : ∀ e, (s.save home tree).1 = .error e → (∀ rest, ¬ Blocked tree (placeNamed names) rest) →
    e.kind = "RuntimeError"
  blocked : ∀ rest, Blocked tree (placeNamed names) rest → ∃ e, (s.save home tree).1 = .error e ∧
    e.kind = if rest = [] then "FileExistsError" else "NotADirectoryError"

theorem saves_in (h : IsHome home names) (s : Settings) {tree : FileTree}
    {inside : List (String × FileTree)}
    (hmade : tree.makeDirs (String.ofList (Path.parent (settingsPath home).toList)) = .ok made)
    (hhome : made.walk (placeNamed names) = .ok (some (.dir inside)))
    (hsame : made.standing (placeNamed names ++ ["config.json"]) =
      tree.standing (placeNamed names ++ ["config.json"]))
    (hfree : ∀ rest, ¬ Blocked tree (placeNamed names) rest) :
    SavesAtomically s home names tree := by
  obtain ⟨htidy, hends⟩ := saveIn_ends h.leads h.leads_beside s hhome
  have hsave : s.save home tree = s.saveIn (settingsPath home) made := by rw [save_eq, hmade]
  refine ⟨fun hok => ?_, fun e he => ?_, fun bytes hfile => ?_, fun e he _ => ?_,
    fun rest hblocked => absurd hblocked (hfree rest)⟩
  · rw [find?_leads h.leads, placeNamed_settings, hsave]
    rw [hsave] at hok
    obtain ⟨-, hdocument⟩ | ⟨e, he, -⟩ := hends
    · rw [hdocument]
    · rw [he] at hok
      cases hok
  · rw [find?_leads h.leads, find?_leads h.leads, placeNamed_settings, hsave]
    rw [hsave] at he
    obtain ⟨hok, -⟩ | ⟨-, -, -, hold⟩ := hends
    · rw [hok] at he
      cases he
    · rw [hold, hsame]
  · rw [find?_leads h.leads_beside, placeNamed_beside, hsave] at hfile
    exact htidy bytes (Except.ok.inj hfile)
  · rw [hsave] at he
    obtain ⟨hok, -⟩ | ⟨e', he', hkind, -⟩ := hends
    · rw [hok] at he
      cases he
    · obtain rfl := Except.error.inj (he'.symm.trans he)
      exact hkind

theorem save_blocked (h : IsHome home names) (s : Settings) {entries : List (String × FileTree)}
    {rest : List String} (hblocked : Blocked (.dir entries) (placeNamed names) rest) :
    ∃ e, s.save home (.dir entries) = (.error (.directory e), .dir entries) ∧
      e.obstacle = if rest = [] then .exists else .notDirectory := by
  obtain ⟨slashes, hdirs⟩ := h.makeDirs_names
  obtain ⟨front, bytes, hplace, hfile⟩ := hblocked
  have hnames : names ≠ [] := by
    rintro rfl
    obtain ⟨rfl, -⟩ := List.append_eq_nil_iff.mp hplace.symm
    cases hfile
  exact ⟨_, by rw [save_eq, hdirs, makeLevels_blocked h.fit hnames slashes hplace hfile], rfl⟩

/-- A save leaves the complete document, or what stood there before, and no file beside. It fails with
another kind exactly where a file stands in the way of the home directory. -/
theorem save_atomic (h : IsHome home names) (s : Settings) (entries : List (String × FileTree)) :
    SavesAtomically s home names (.dir entries) := by
  obtain ⟨slashes, hdirs⟩ := h.makeDirs_names
  have hmake := hdirs (.dir entries)
  obtain ⟨inside, hthere⟩ | hmissing | ⟨front, rest, bytes, hplace, hfront, hfile⟩ :=
    place_cases entries (placeNamed names)
  · rw [makeLevels_there h.fit slashes hthere] at hmake
    refine saves_in h s hmake hthere rfl fun rest hblocked => ?_
    obtain herror | ⟨bytes, hfile⟩ := blocked_walk hblocked
    · rw [hthere] at herror
      cases herror
    · rw [hthere] at hfile
      cases hfile
  · obtain ⟨made, hlevels, hnew⟩ := makeLevels_new h.fit slashes hmissing
    rw [hlevels] at hmake
    have hnone : FileTree.standing (.dir entries) (placeNamed names) = none := by
      obtain hmissing | hmissing := hmissing <;> rw [standing, hmissing]
    refine saves_in h s hmake hnew ?_ fun rest hblocked => ?_
    · rw [standing_concat, standing_concat, hnone, standing, hnew]
      rfl
    · obtain herror | ⟨bytes, hfile⟩ := blocked_walk hblocked
      · rw [herror] at hmissing
        simp at hmissing
      · rw [hfile] at hmissing
        simp at hmissing
  · have hblocked : Blocked (.dir entries) (placeNamed names) rest := ⟨front, bytes, hplace, hfile⟩
    obtain ⟨e, hsave, -⟩ := save_blocked h s hblocked
    refine ⟨fun hok => ?_, fun _ _ => by rw [hsave], fun bytes' hbeside => ?_,
      fun _ _ hfree => absurd hblocked (hfree rest), fun rest' hblocked' => ?_⟩
    · rw [hsave] at hok
      cases hok
    · rw [find?_leads h.leads_beside, hsave, placeNamed_concat, hplace, List.append_assoc, standing,
        walk_behind hfile (by simp)] at hbeside
      cases hbeside
    · obtain ⟨e', hsave', hobstacle⟩ := save_blocked h s hblocked'
      refine ⟨.directory e', by rw [hsave'], ?_⟩
      rw [SaveFault.kind, hobstacle]
      split <;> rfl

theorem save_atomic_directory :
    let tree : FileTree := .dir [("home", .dir [("u", .dir [("config.json", .dir [])])])]
    let names := ["home".toList, "u".toList]
    IsHome "/home/u" names ∧ SavesAtomically .default "/home/u" names tree ∧
      (Settings.default.save "/home/u" tree).1 = .error (.document ⟨.isDirectory,
        "/home/u/config.json.tmp", some "/home/u/config.json"⟩) := by
  have hhome : IsHome "/home/u" ["home".toList, "u".toList] := by
    refine ⟨by decide, by decide, ?_, by decide +kernel⟩
    intro c hc
    simp only [List.mem_cons, List.not_mem_nil, or_false] at hc
    obtain rfl | rfl := hc <;> refine ⟨⟨?_, ?_, ?_⟩, ?_⟩ <;> decide
  exact ⟨hhome, save_atomic hhome _ _, by decide +kernel⟩

theorem save_over_file :
    let tree : FileTree := .dir [("home", .dir [("u", .file [])])]
    ∃ e, (Settings.default.save "/home/u" tree).1 = .error e ∧ e.kind = "FileExistsError" :=
  ⟨.directory ⟨.exists, "/home/u", none⟩, by decide +kernel, rfl⟩

end ReviewDiff.Settings
