import DotDrawing.Command.Files
import DotDrawing.Proofs.Dict.Merge
import DotDrawing.Proofs.Outcome
import DotDrawing.Proofs.Token.Lines

/-!
Writing to a tree of files.

Whether a file can be written does not depend on its text (`write_eq`). Writing one changes no
directory, so every path leads where it led before (`place?_put`); the paths that lead to the file
show its new text, and all others show what they showed (`replaces_of_write`).
-/

namespace DotDrawing.Command

/-- What is seen, if anything. -/
def Sight.seen? : Sight → Option Files.Entry
  | nothing _ => none
  | directory => some .directory
  | file bytes => some (.file bytes)

namespace Files

variable {fs fs' : Files} {place q r ns : List String} {name path text : String}

/-! ### Places and their keys -/

/-- The names of a place have no slashes in them. -/
def Slashless (ns : List String) : Prop := ∀ name ∈ ns, '/' ∉ name.toList

lemma slashless_names (path : String) : Slashless (names path) := by
  intro name hname
  obtain ⟨part, hpart, rfl⟩ := List.mem_map.1 hname
  rw [String.toList_ofList]
  exact (mem_of_mem_splitOn hpart).1

lemma slashless_advance (hq : Slashless q) (hname : '/' ∉ name.toList) :
    Slashless (advance q name) := by
  unfold advance
  split
  · exact hq
  · split
    · exact fun n hn => hq n (List.dropLast_subset q hn)
    · intro n hn
      rcases List.mem_append.1 hn with hn | hn
      · exact hq n hn
      · rwa [List.mem_singleton.1 hn]

lemma names_key (hq : Slashless q) (hne : q ≠ []) : names (key q) = q := by
  have hchars : (key q).toList = ['/'].intercalate (q.map String.toList) := by
    rw [key, String.toList_intercalate]
    rfl
  have hcut : (['/'].intercalate (q.map String.toList)).splitOn '/' = q.map String.toList := by
    refine List.splitOn_intercalate '/' (fun part hpart => ?_) (by simpa using hne)
    obtain ⟨name, hname, rfl⟩ := List.mem_map.1 hpart
    exact hq name hname
  rw [names, hchars, hcut, List.map_map]
  exact (List.map_congr_left fun name _ => String.ofList_toList).trans (List.map_id q)

lemma eq_of_key_eq (hq : Slashless q) (hr : Slashless r) (hqne : q ≠ []) (hrne : r ≠ [])
    (h : key q = key r) : q = r := by
  rw [← names_key hq hqne, ← names_key hr hrne, h]

/-! ### Where names lead -/

lemma step_eq_ok_iff : fs.step q name = .ok r ↔
    fs.entry? q = some .directory ∧ name.utf8ByteSize ≤ maxName ∧ advance q name = r := by
  unfold step
  split
  · next h => simp [h]
  · next h => simp [h]
  · next h =>
    split
    · next hlong => simp [h, Nat.not_le.2 hlong]
    · next hlong => simp [h, Nat.not_lt.1 hlong]

lemma slashless_of_foldlM (hns : Slashless ns) (hq : Slashless q)
    (h : ns.foldlM (step fs) q = .ok r) : Slashless r := by
  induction ns generalizing q with
  | nil =>
    cases h
    exact hq
  | cons name ns ih =>
    obtain ⟨hname, hns⟩ := List.forall_mem_cons.1 hns
    rw [List.foldlM_cons, bind_eq_ok_iff] at h
    obtain ⟨p, hstep, h⟩ := h
    obtain ⟨-, -, rfl⟩ := step_eq_ok_iff.1 hstep
    exact ih hns (slashless_advance hq hname) h

/-- The place that the path leads to, if it leads to one. -/
def place? (fs : Files) (path : String) : Option (List String) :=
  if (pathFault? path).isSome then none else (fs.follow (names path)).toOption

lemma place?_eq_some_iff :
    fs.place? path = some q ↔ pathFault? path = none ∧ fs.follow (names path) = .ok q := by
  unfold place?
  cases pathFault? path with
  | some fault => simp
  | none => cases fs.follow (names path) <;> simp [Except.toOption]

lemma slashless_of_place? (h : fs.place? path = some q) : Slashless q :=
  slashless_of_foldlM (slashless_names path) (by simp [Slashless]) (place?_eq_some_iff.1 h).2

lemma seen?_look (fs : Files) (path : String) :
    (fs.look path).seen? = (fs.place? path).bind fs.entry? := by
  unfold look place?
  cases pathFault? path with
  | some fault => rfl
  | none =>
    cases fs.follow (names path) with
    | error fault => rfl
    | ok q => cases h : fs.entry? q with
      | none => simp [Except.toOption, h, Sight.seen?]
      | some e => cases e <;> simp [Except.toOption, h, Sight.seen?]

lemma look_eq_file_iff {bytes : ByteArray} :
    fs.look path = .file bytes ↔ (fs.look path).seen? = some (.file bytes) := by
  cases fs.look path <;> simp [Sight.seen?]

/-! ### Where a file can be written -/

/-- The place of a file in a directory, by its name if it can have one. -/
def targetIn (fs : Files) (parent : List String) : Option String → Except FileFault (List String)
  | none =>
    match fs.entry? parent with
    | none => .error .notFound
    | some (.file _) => .error .notDirectory
    | some .directory => .error .isDirectory
  | some last => do
    let place ← fs.step parent last
    match fs.entry? place with
    | some .directory => .error .isDirectory
    | _ => .ok place

/-- The place of the file that is written at a path. -/
def target (fs : Files) (path : String) : Except FileFault (List String) :=
  match pathFault? path with
  | some fault => .error fault
  | none => do fs.targetIn (← fs.follow (splitLast path).1) (splitLast path).2

/-- The tree with the text in a file at the place. -/
def put (fs : Files) (place : List String) (text : String) : Files :=
  ⟨fs.entries.insert (key place) (.file text.toUTF8)⟩

lemma write_eq (fs : Files) (path text : String) :
    fs.write path text = (fs.target path).map fun place => fs.put place text := by
  unfold write target
  cases pathFault? path with
  | some fault => rfl
  | none =>
    dsimp only
    obtain ⟨parents, last?⟩ := splitLast path
    dsimp only
    cases fs.follow parents with
    | error fault => rfl
    | ok parent =>
      dsimp only [bind, Except.bind]
      cases last? with
      | none =>
        rw [targetIn]
        rcases fs.entry? parent with _ | _ | bytes <;> rfl
      | some last =>
        rw [targetIn]
        -- the step to the last name fails by itself unless it starts from a directory
        rcases hparent : fs.entry? parent with _ | _ | bytes
        · have hstep : fs.step parent last = .error .notFound := by rw [step, hparent]
          rw [hstep]
          rfl
        · dsimp only
          cases fs.step parent last with
          | error fault => rfl
          | ok place =>
            dsimp only [bind, Except.bind]
            rcases fs.entry? place with _ | _ | bytes <;> rfl
        · have hstep : fs.step parent last = .error .notDirectory := by rw [step, hparent]
          rw [hstep]
          rfl

lemma names_eq_append {last : String} (h : (splitLast path).2 = some last) :
    names path = (splitLast path).1 ++ [last] := by
  unfold splitLast at h ⊢
  dsimp only at h ⊢
  cases hlast : (names path).getLast? with
  | none => simp [hlast] at h
  | some last' =>
    obtain ⟨front, hfront⟩ := List.getLast?_eq_some_iff.1 hlast
    simp only [hlast] at h ⊢
    split at h
    · cases h
    · next hempty =>
      rw [if_neg hempty]
      split at h
      · cases h
      · next hdots =>
        cases h
        rw [if_neg hdots, hfront, List.dropLast_concat]

lemma target_eq_ok (h : fs.target path = .ok place) :
    fs.place? path = some place ∧ fs.entry? place ≠ some .directory := by
  unfold target at h
  split at h
  · cases h
  · next hfault =>
    obtain ⟨parent, hparent, h⟩ := bind_eq_ok_iff.1 h
    unfold targetIn at h
    split at h
    · split at h <;> cases h
    · next last hlast =>
      obtain ⟨q, hstep, h⟩ := bind_eq_ok_iff.1 h
      have hq : fs.entry? q ≠ some .directory ∧ q = place := by
        split at h
        · cases h
        · next hentry =>
          cases h
          exact ⟨hentry, rfl⟩
      obtain ⟨hentry, rfl⟩ := hq
      -- the last name is one more step behind the parent
      refine ⟨place?_eq_some_iff.2 ⟨hfault, ?_⟩, hentry⟩
      rw [follow, names_eq_append hlast, List.foldlM_append, bind_eq_ok_iff]
      exact ⟨parent, hparent, by rw [List.foldlM_cons, hstep]; rfl⟩

/-! ### What a new file changes -/

lemma get_put (fs : Files) (place : List String) (text : String) (q : List String) :
    Files.entry? (fs.put place text) q =
      if q ≠ [] ∧ key q = key place then some (.file text.toUTF8) else fs.entry? q := by
  unfold entry? put
  cases q with
  | nil => simp
  | cons name q => simp [Dict.get?_insert]

section

variable (hdir : fs.entry? place ≠ some .directory)

include hdir

lemma ne_nil_of_entry? : place ≠ [] := by
  rintro rfl
  exact hdir rfl

lemma directory_put (text : String) (q : List String) :
    Files.entry? (fs.put place text) q = some .directory ↔ fs.entry? q = some .directory := by
  have hne := ne_nil_of_entry? hdir
  rw [get_put]
  split
  · next h =>
    have hq : fs.entry? q = fs.entry? place := by simp [h, hne, entry?]
    simp [hq, hdir]
  · rfl

lemma foldlM_put (text : String) (ns q : List String) :
    ns.foldlM (step (fs.put place text)) q = .ok r ↔ ns.foldlM (step fs) q = .ok r := by
  induction ns generalizing q with
  | nil => rfl
  | cons name ns ih =>
    simp only [List.foldlM_cons, bind_eq_ok_iff, step_eq_ok_iff, directory_put hdir, ih]

lemma place?_put (text path : String) : (fs.put place text).place? path = fs.place? path := by
  ext q
  simp only [place?_eq_some_iff, follow, foldlM_put hdir]

end

/-- The trees have the same at all paths, but for the paths that lead where `path` leads: all of
them show the bytes. -/
structure Replaces (fs fs' : Files) (path : String) (bytes : ByteArray) : Prop where
  written : fs'.look path = .file bytes
  aliases : ∀ other, fs.place? other = fs.place? path → fs'.look other = .file bytes
  others : ∀ other, fs.place? other ≠ fs.place? path →
    (fs'.look other).seen? = (fs.look other).seen?

/-- **Writing a file** replaces what is at its path by the text, and nothing else. -/
lemma replaces_of_write (h : fs.write path text = .ok fs') :
    fs.Replaces fs' path text.toUTF8 := by
  rw [write_eq] at h
  cases htarget : fs.target path with
  | error fault =>
    rw [htarget] at h
    cases h
  | ok place =>
    rw [htarget] at h
    cases h
    obtain ⟨hplace, hdir⟩ := target_eq_ok htarget
    have hne := ne_nil_of_entry? hdir
    -- every path to the place sees the new text, not only the one written to
    have haliases : ∀ other, fs.place? other = fs.place? path →
        (fs.put place text).look other = .file text.toUTF8 := by
      intro other hother
      rw [look_eq_file_iff, seen?_look, place?_put hdir, hother, hplace, Option.bind_some,
        get_put, if_pos ⟨hne, rfl⟩]
    refine ⟨haliases path rfl, haliases, fun other hother => ?_⟩
    rw [seen?_look, seen?_look, place?_put hdir]
    cases hq : fs.place? other with
    | none => rfl
    | some q =>
      have hkey : ¬ (q ≠ [] ∧ key q = key place) := by
        rintro ⟨hqne, hkey⟩
        have heq := eq_of_key_eq (slashless_of_place? hq) (slashless_of_place? hplace) hqne hne hkey
        rw [hq, hplace, heq] at hother
        exact hother rfl
      rw [Option.bind_some, Option.bind_some, get_put, if_neg hkey]

end Files

end DotDrawing.Command
