import ReviewDiff.Settings.Stored
import ReviewDiff.Proofs.Files.Rename
import ReviewDiff.Proofs.Json.RoundTrip
import ReviewDiff.Proofs.Path.Child
import ReviewDiff.Proofs.Settings.Accepted
import ReviewDiff.Proofs.Text.Encoding

/-!
# Settings that are saved and loaded again

When a save succeeds, the bytes of the document stand at the path of the settings, the document
reads back from them, and its validation gives the settings that were saved. The lifetime is the one
number whose text is only assumed to read back.
-/

set_option autoImplicit false

namespace ReviewDiff.Settings

theorem unifyBreaks_self {cs : List Char} (h : ∀ c ∈ cs, c ≠ '\r') : unifyBreaks cs = cs := by
  induction cs with
  | nil => rfl
  | cons c rest ih =>
    have hc := h c List.mem_cons_self
    rw [unifyBreaks, ih fun d hd => h d (List.mem_cons_of_mem c hd), if_neg hc]
    rintro tail rfl -
    exact hc rfl

theorem fileStyle_spaced : fileStyle.Spaced := by
  intro unit hunit c hc
  obtain rfl : Json.spaces 4 = unit := Option.some.inj hunit
  rw [Json.spaces, String.toList_ofList] at hc
  exact List.eq_of_mem_replicate hc

variable {s : Settings}

theorem settingsPath_beside (home : String) :
    FileTree.Beside (settingsPath home) (settingsPath home ++ ".tmp") := by
  have hname : Path.IsName "config.json".toList := by
    refine ⟨?_, ?_, ?_⟩ <;> decide
  obtain ⟨above, hcomponents⟩ := Path.components_child home.toList hname
  refine ⟨above, "config.json".toList, "config.json.tmp".toList, ?_, ?_, hname, ?_, by decide⟩
  · rw [settingsPath, String.toList_ofList]
    simpa using hcomponents [] (by decide)
  · rw [settingsPath, String.toList_append, String.toList_ofList]
    exact hcomponents ".tmp".toList (by decide)
  · refine ⟨?_, ?_, ?_⟩ <;> decide

theorem legible_toJson (hlong : s.toJson.hasLong = false) (hread : Json.ReadsBack s.cache.ttlSeconds) :
    s.toJson.Legible := by
  simp only [toJson, Json.hasLong, Json.hasLongMember, Bool.or_false, Bool.false_or,
    Bool.or_eq_false_iff] at hlong
  refine ⟨by simp, ⟨by simp, hlong.1, trivial, trivial⟩,
    ⟨by simp, trivial, hlong.2, hread, trivial⟩, ⟨by simp, trivial, trivial⟩, trivial⟩

theorem depth_toJson (s : Settings) : s.toJson.depth ≤ Json.maxDepth := by
  simp [toJson, Json.depth, Json.depthOfMembers, Json.maxDepth]

theorem ofBytes_fileText (path : String) (haccepted : s.Accepted)
    (hlong : s.toJson.hasLong = false) (hread : Json.ReadsBack s.cache.ttlSeconds) :
    ofBytes path (Utf8.encodeText s.fileText) = .ok s := by
  have hbreaks : unifyBreaks s.fileText.toList = s.fileText.toList := by
    refine unifyBreaks_self ?_
    rw [fileText, Json.write, String.toList_ofList]
    exact Json.ne_return_writeAt fileStyle_spaced s.toJson 0
  have hdocument : Json.read s.fileText.toList = .ok (.obj s.members) := by
    rw [← toJson_eq]
    exact Json.read_write fileStyle_spaced (legible_toJson hlong hread) (depth_toJson s)
  rw [ofBytes, Utf8.encodeText, Utf8.decode_encode]
  simp only [hbreaks]
  rw [ofText, hdocument]
  simp only [ofMembers_members haccepted]

theorem look_saved {home : String} {tree after : FileTree}
    (h : s.save home tree = (.ok (), after)) :
    s.toJson.hasLong = false ∧ ∃ place, after.look (settingsPath home) =
      .ok (place, some (.file (Utf8.encodeText s.fileText))) := by
  have hbeside := settingsPath_beside home
  unfold save at h
  generalize settingsPath home = path at h hbeside
  cases hmade : tree.makeDirs (String.ofList (Path.parent path.toList)) with
  | error e => simp [hmade] at h
  | ok made =>
    simp only [hmade] at h
    cases hwritten : made.write (path ++ ".tmp") (Utf8.encodeText s.fileText) with
    | error e => simp [hwritten] at h
    | ok written =>
      simp only [hwritten] at h
      split_ifs at h with hlong
      · simp at h
      · cases hrenamed : written.rename (path ++ ".tmp") path with
        | error e => simp [hrenamed] at h
        | ok renamed =>
          simp only [hrenamed, Prod.mk.injEq, true_and] at h
          subst h
          obtain ⟨place, hlook⟩ := FileTree.look_written hwritten
          exact ⟨eq_false_of_ne_true hlong, FileTree.look_renamed hbeside hlook hrenamed⟩

theorem load_of_look {home : String} {tree : FileTree} {place : List String} {bytes : Bytes}
    (h : tree.look (settingsPath home) = .ok (place, some (.file bytes))) :
    load tree home = ofBytes (settingsPath home) bytes := by
  unfold load
  generalize settingsPath home = path at h
  simp only [FileTree.isThere_of_look h, FileTree.read_of_look h]

theorem ofBytes_accepted {path : String} {bytes : Bytes} (h : ofBytes path bytes = .ok s) :
    s.Accepted := by
  rw [ofBytes] at h
  split at h
  · cases h
  · next text _ =>
    rw [ofText] at h
    split at h
    · dsimp only at h
      split at h <;> cases h
    · next members _ =>
      cases hmembers : ofMembers members with
      | error e => simp [hmembers] at h
      | ok found =>
        simp only [hmembers, Except.ok.injEq] at h
        exact h ▸ ofMembers_accepted hmembers
    · cases h

theorem load_accepted {home : String} {tree : FileTree} (h : load tree home = .ok s) :
    s.Accepted := by
  unfold load at h
  generalize settingsPath home = path at h
  dsimp only at h
  split at h
  · cases h
  · exact Except.ok.inj h ▸ default_accepted
  · split at h
    · cases h
    · exact ofBytes_accepted h

/-- Accepted settings that are saved are loaded again from the same home directory, and loading,
saving and loading again gives the settings that were loaded first. The text of the lifetime has to
read back as the lifetime. -/
theorem load_save {s : Settings} {home : String} {tree after : FileTree}
    (hread : Json.ReadsBack s.cache.ttlSeconds)
    (hsave : s.save home tree = (.ok (), after)) :
    (s.Accepted → load after home = .ok s) ∧
      (load tree home = .ok s → load after home = .ok s) := by
  obtain ⟨hlong, place, hlook⟩ := look_saved hsave
  have hload (haccepted : s.Accepted) : load after home = .ok s := by
    rw [load_of_look hlook, ofBytes_fileText _ haccepted hlong hread]
  exact ⟨hload, fun h => hload (load_accepted h)⟩

theorem oneHour_readsBack : Json.ReadsBack oneHour := by
  have htext : oneHour.text Json.numberLayout = "3600.0" := by decide +kernel
  have hvalue : Binary64.ofDecimal false 36000 (-1) = oneHour := by decide +kernel
  rw [Json.ReadsBack, htext, ← hvalue]
  rfl

/-- A name with characters that are escaped, one of them by two escapes, is kept in a directory that
is made for it. -/
theorem load_save_escaped :
    let s : Settings := ⟨⟨0, "v\"1\"/é😀"⟩, .default, ⟨.debug⟩⟩
    let after := (s.save "/home/u" (.dir [])).2
    s.save "/home/u" (.dir []) = (.ok (), after) ∧ load after "/home/u" = .ok s := by
  intro s after
  have hsave : s.save "/home/u" (.dir []) = (.ok (), after) := Prod.ext (by decide +kernel) rfl
  have hread : Json.ReadsBack s.cache.ttlSeconds := oneHour_readsBack
  have haccepted : s.Accepted := ⟨by decide +kernel, by decide +kernel, by decide +kernel⟩
  exact ⟨hsave, (load_save hread hsave).1 haccepted⟩

end ReviewDiff.Settings
