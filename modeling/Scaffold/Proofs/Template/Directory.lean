import Scaffold.Proofs.FileTree.Components
import Scaffold.Proofs.Generator.AllOrNothing
import Scaffold.Proofs.Template.Walks

/-!
# Template directories

From a directory, every file becomes one artifact: where it stands, written once, and with its own
bytes, unless its name is one of those in whose files placeholders are replaced.  The artifacts come in
the order of the locations, name by name.  That fails exactly when something cannot be read, or when a
text is called for and a file has none.  What is made of a file tree is what a walk through it gives.
-/

namespace Scaffold

section Decoding

variable {bytes : ByteArray} {text : String}

theorem fromUTF8?_eq_some_iff :
    String.fromUTF8? bytes = some text ↔ text.toUTF8 = bytes := by
  unfold String.fromUTF8?
  constructor
  · intro decoded
    split at decoded
    · cases decoded
      rfl
    · cases decoded
  · rintro rfl
    rw [String.toUTF8_eq_toByteArray, dif_pos text.isValidUTF8]
    rfl

theorem fromUTF8?_eq_none_iff :
    String.fromUTF8? bytes = none ↔ ∀ text : String, text.toUTF8 ≠ bytes := by
  simp [Option.eq_none_iff_forall_ne_some, fromUTF8?_eq_some_iff]

/-- Whatever bytes a content is made of, it has them. -/
theorem Content.bytes_ofBytes (bytes : ByteArray) :
    (Content.ofBytes bytes).bytes = bytes := by
  unfold ofBytes
  split
  · next decoded => exact fromUTF8?_eq_some_iff.1 decoded
  · rfl

end Decoding

theorem Path.fileName?_ofNames (names : List Path.Name) :
    (Path.ofNames names).fileName? = names.getLast?.map Path.Name.text := by
  rw [Path.fileName?, Path.lastStep?, Path.moves_ofNames, List.getLast?_map]
  cases names.getLast? <;> simp

namespace Template

/-- Whether placeholders are replaced in the file at a location: its own name decides. -/
def Substituted (names : Location) : Prop :=
  ∃ name, names.getLast? = some name ∧ name.text ∈ substitutedNames

/-- The artifact of a file, given by its names from the directory and its bytes. -/
structure Carries
    (tokens : Tokens)
    (file : Location × ByteArray)
    (a : Artifact) : Prop where
  path : a.path = Path.ofNames file.1
  rules : a.rules = .once
  substituted : Substituted file.1 →
    ∃ text : String, text.toUTF8 = file.2 ∧ a.content = .ok (.text (tokens.substitute text))
  verbatim : ¬ Substituted file.1 → ∃ content, a.content = .ok content ∧ content.bytes = file.2

/-- Something below a directory that no artifact can be made of. -/
inductive View.Fails (view : View) : Prop
  | unreachable (absent : view.at? [] = none)
  | unlisted
      {names : Location}
      (stands : view.at? names = some .unlisted)
  | unreadable
      {names : Location}
      (stands : view.at? names = some (.file none))
  | undecodable
      {names : Location}
      {bytes : ByteArray}
      (stands : view.at? names = some (.file (some bytes)))
      (substituted : Substituted names)
      (noText : ∀ text : String, text.toUTF8 ≠ bytes)

/-- A walk that did not go wrong, and came upon no file that it could not read. -/
def Clean (visits : List Visit) : Prop :=
  .fault ∉ visits ∧ ∀ names, .file names none ∉ visits

/-- An entry of a tree, whose files can be read and whose directories can be listed. -/
def Sight.ofEntry : Entry → Sight
  | .directory => .directory
  | .file bytes => .file (some bytes)

/-- What stands in a tree below a directory. -/
def View.ofTree
    (tree : FileTree)
    (directory : Path) : View where
  at? names :=
    match tree.locate directory with
    | .error _ => none
    | .ok location => (tree.find? (location ++ names)).map Sight.ofEntry
  rooted names name there := by
    cases reached : tree.locate directory with
    | error _ => simp [reached] at there
    | ok location =>
        have below : (tree.find? ((location ++ names) ++ [name])).isSome := by
          simpa [reached] using there
        simp [tree.find?_of_below below, Sight.ofEntry]
  finite := by
    cases reached : tree.locate directory with
    | error _ => exact ⟨[], by simp⟩
    | ok location =>
        refine ⟨[] :: tree.entries.keys.map (·.drop location.length), fun names there => ?_⟩
        have stands : (tree.find? (location ++ names)).isSome := by simpa using there
        by_cases top : location ++ names = []
        · simp [List.append_eq_nil_iff.1 top]
        · obtain ⟨entry, found⟩ := Option.isSome_iff_exists.1 stands
          rw [FileTree.find?, if_neg top, OrderedMap.get?_eq_some_iff] at found
          refine List.mem_cons_of_mem _ (List.mem_map.2 ⟨location ++ names, ?_, List.drop_left⟩)
          exact List.mem_map_of_mem found

section Directories

variable {tokens : Tokens} {directory : Path} {view : View} {visits : List Visit}
  {artifacts : List Artifact} {names : Location} {file : Location × ByteArray} {a : Artifact}

theorem isSubstituted_ofNames :
    isSubstituted (Path.ofNames names) = true ↔ Substituted names := by
  unfold isSubstituted Substituted
  rw [Path.fileName?_ofNames]
  cases last : names.getLast? <;> simp

theorem carries_of_directoryArtifact
    (made : directoryArtifact tokens directory file = .ok a) :
    Carries tokens file a := by
  simp only [directoryArtifact] at made
  split at made
  · next content found =>
      cases made
      refine ⟨rfl, rfl, fun substituted => ?_, fun plain => ?_⟩
      · rw [contentOf?, if_pos (isSubstituted_ofNames.2 substituted), Option.map_eq_some_iff] at found
        obtain ⟨text, decoded, rfl⟩ := found
        exact ⟨text, fromUTF8?_eq_some_iff.1 decoded, rfl⟩
      · rw [contentOf?, if_neg (mt isSubstituted_ofNames.1 plain), Option.some.injEq] at found
        subst found
        exact ⟨_, rfl, Content.bytes_ofBytes file.2⟩
  · cases made

theorem undecodable_iff :
    Undecodable file ↔ Substituted file.1 ∧ ∀ text : String, text.toUTF8 ≠ file.2 := by
  rw [Undecodable, isSubstituted_ofNames, fromUTF8?_eq_none_iff]

/-- A walk that finds everything gives the artifacts of the files, unless one of them has to be text and is
not. -/
theorem walkArtifacts_eq_mapM
    (clean : Clean visits) :
    walkArtifacts tokens directory visits =
      (visits.filterMap Visit.readable?).mapM (directoryArtifact tokens directory) := by
  induction visits with
  | nil => rfl
  | cons visit visits ih =>
      have later := ih ⟨fun among => clean.1 (List.mem_cons_of_mem _ among),
        fun names among => clean.2 names (List.mem_cons_of_mem _ among)⟩
      cases visit with
      | fault => exact absurd List.mem_cons_self clean.1
      | other names => exact later
      | file names bytes =>
          cases bytes with
          | none => exact absurd List.mem_cons_self (clean.2 names)
          | some bytes =>
              have found : (Visit.file names (some bytes)).readable? = some (names, bytes) := rfl
              rw [List.filterMap_cons_some found, List.mapM_cons, ← later, walkArtifacts]
              cases directoryArtifact tokens directory (names, bytes) <;>
                cases walkArtifacts tokens directory visits <;> rfl

section Walking

variable (walk : Walk view [[]] visits)
include walk

/-- The files that a walk of a directory comes upon are those that stand there and can be read. -/
theorem Walk.mem_readable_iff
    {bytes : ByteArray} :
    (names, bytes) ∈ visits.filterMap Visit.readable? ↔
      view.at? names = some (.file (some bytes)) := by
  rw [mem_filterMap_readable?, walk.file_mem_iff]
  simp [Ahead]

theorem Walk.clean_iff :
    Clean visits ↔ view.at? [] ≠ none ∧ (∀ names, view.at? names ≠ some .unlisted) ∧
      ∀ names, view.at? names ≠ some (.file none) := by
  simp [Clean, walk.fault_mem_iff, walk.file_mem_iff, Ahead, and_assoc]

/-- Making artifacts fails exactly when something cannot be read, or has to be text and is not. -/
theorem Walk.exists_walkArtifacts_eq_error_iff :
    (∃ failure, walkArtifacts tokens directory visits = .error failure) ↔ view.Fails := by
  have everywhere : ∀ names, Ahead [[]] names := fun names =>
    ⟨[], List.mem_singleton_self [], List.nil_prefix⟩
  rw [Template.exists_walkArtifacts_eq_error_iff]
  constructor
  · rintro ⟨visit, member, reason, flaw⟩
    cases flaw with
    | unlisted =>
        rcases walk.fault_mem_iff.1 member with ⟨top, among, absent⟩ | ⟨names, stands, -⟩
        · obtain rfl := List.mem_singleton.1 among
          exact .unreachable absent
        · exact .unlisted stands
    | unread => exact .unreadable (walk.file_mem_iff.1 member).1
    | undecodable noTemplate =>
        obtain ⟨substituted, noText⟩ := undecodable_iff.1 noTemplate
        exact .undecodable (walk.file_mem_iff.1 member).1 substituted noText
  · intro fails
    cases fails with
    | unreachable absent =>
        exact ⟨_, walk.fault_mem_iff.2 (.inl ⟨[], List.mem_singleton_self [], absent⟩), _, .unlisted⟩
    | unlisted stands =>
        exact ⟨_, walk.fault_mem_iff.2 (.inr ⟨_, stands, everywhere _⟩), _, .unlisted⟩
    | unreadable stands => exact ⟨_, walk.file_mem_iff.2 ⟨stands, everywhere _⟩, _, .unread⟩
    | undecodable stands substituted noText =>
        exact ⟨_, walk.file_mem_iff.2 ⟨stands, everywhere _⟩, _,
          .undecodable (undecodable_iff.2 ⟨substituted, noText⟩)⟩

/-- The artifacts that are made are those of the files, in the order of their locations. -/
theorem Walk.carries_of_walkArtifacts
    (made : walkArtifacts tokens directory visits = .ok artifacts) :
    (visits.filterMap Visit.readable?).Pairwise
        (fun a b => a.1.map Path.Name.text < b.1.map Path.Name.text) ∧
      List.Forall₂ (Carries tokens) (visits.filterMap Visit.readable?) artifacts := by
  have sound : ∀ visit ∈ visits, ∀ reason, ¬ visit.Flaw directory reason := by
    intro visit member reason flaw
    obtain ⟨failure, failed⟩ : ∃ failure, walkArtifacts tokens directory visits = .error failure :=
      Template.exists_walkArtifacts_eq_error_iff.2 ⟨visit, member, reason, flaw⟩
    rw [made] at failed
    cases failed
  have clean : Clean visits :=
    ⟨fun among => sound _ among _ .unlisted, fun names among => sound _ among _ .unread⟩
  rw [walkArtifacts_eq_mapM clean] at made
  exact ⟨(walk.pairwise_readable (List.pairwise_singleton _ _)).imp Parts.lt,
    (mapM_eq_ok.1 made).imp fun _ _ => carries_of_directoryArtifact⟩

end Walking

section Trees

variable {tree : FileTree} {location : Location}

theorem View.ofTree_at?
    (reached : tree.locate directory = .ok location)
    (names : Location) :
    (View.ofTree tree directory).at? names = (tree.find? (location ++ names)).map Sight.ofEntry := by
  simp [ofTree, reached]

/-- The files that can be read below a directory of a tree are the files of the tree there. -/
theorem View.ofTree_file_iff
    (bare : tree.Bare)
    (reached : tree.locate directory = .ok location)
    {bytes : ByteArray} :
    (View.ofTree tree directory).at? names = some (.file (some bytes)) ↔
      (names, bytes) ∈ tree.filesBelow location := by
  have found : tree.find? (location ++ names) = some (.file bytes) ↔
      tree.entries.get? (location ++ names) = some (.file bytes) := by
    by_cases top : location ++ names = []
    · have nothing : tree.entries.get? [] = none := bare
      simp [top, nothing]
    · rw [FileTree.find?, if_neg top]
  rw [View.ofTree_at? reached, FileTree.mem_filesBelow, ← found]
  cases tree.find? (location ++ names) with
  | none => simp
  | some entry => cases entry <;> simp [Sight.ofEntry]

/-- A walk through a directory of a tree comes upon the files of the tree there. -/
theorem Walk.readable_eq_filesBelow
    (bare : tree.Bare)
    (reached : tree.locate directory = .ok location)
    (walk : Walk (View.ofTree tree directory) [[]] visits) :
    visits.filterMap Visit.readable? = tree.filesBelow location := by
  have same : ∀ file : Location × ByteArray,
      file ∈ visits.filterMap Visit.readable? ↔ file ∈ tree.filesBelow location :=
    fun file => walk.mem_readable_iff.trans (View.ofTree_file_iff bare reached)
  have ascending := walk.pairwise_readable (List.pairwise_singleton _ _)
  have sorted := ascending.imp fun parts => FileTree.comesBefore_iff.2 parts.lt.le
  have distinct : (visits.filterMap Visit.readable?).Nodup :=
    ascending.imp fun parts same => parts.lt.ne (by rw [same])
  refine List.Perm.eq_of_pairwise ?_ sorted FileTree.pairwise_filesBelow
    ((List.perm_ext_iff_of_nodup distinct FileTree.nodup_filesBelow).2 same)
  rintro ⟨names, bytes⟩ ⟨names', bytes'⟩ here there before after
  obtain rfl : names = names' := FileTree.map_text_injective
    (le_antisymm (FileTree.comesBefore_iff.1 before) (FileTree.comesBefore_iff.1 after))
  have stands := walk.mem_readable_iff.1 here
  rw [walk.mem_readable_iff.1 ((same _).2 there)] at stands
  simpa using stands.symm

/-- In a tree, every directory can be listed and every file can be read. -/
theorem Walk.clean_of_tree
    (reached : tree.locate directory = .ok location)
    (walk : Walk (View.ofTree tree directory) [[]] visits) :
    Clean visits := by
  have seen : ∀ names, (View.ofTree tree directory).at? names =
      (tree.find? (location ++ names)).map Sight.ofEntry := View.ofTree_at? reached
  have there : (tree.find? location).isSome := (FileTree.locate_eq_ok.1 reached).2.2
  simp only [walk.clean_iff, seen]
  refine ⟨by simp [Option.isSome_iff_ne_none.1 there], fun names => ?_, fun names => ?_⟩ <;>
    rcases tree.find? (location ++ names) with _ | _ | bytes <;> simp [Sight.ofEntry]

/-- The artifacts of a template directory are those of any walk through it. -/
theorem directoryArtifacts_eq_walkArtifacts
    (bare : tree.Bare)
    (walk : Walk (View.ofTree tree directory) [[]] visits) :
    directoryArtifacts tree directory tokens = walkArtifacts tokens directory visits := by
  rw [directoryArtifacts_eq]
  cases reached : tree.locate directory with
  | error fault =>
      -- the walk goes wrong where it begins
      cases walk with
      | step complete ascending onwards =>
          simp [View.encounter, View.ofTree, reached, walkArtifacts]
  | ok location =>
      rw [walkArtifacts_eq_mapM (walk.clean_of_tree reached),
        walk.readable_eq_filesBelow bare reached]

end Trees

/-- From a directory, every file that stands there becomes one artifact, in the order of the locations
name by name: it carries the bytes of the file, or its text with the placeholders replaced if the name
calls for that.  This fails exactly when something cannot be read or has to be text and is not, and is
what is made of a file tree, however the walk through it was taken. -/
theorem directory_templates_are_complete_and_verbatim
    (view : View)
    (tokens : Tokens)
    (directory : Path) :
    (∃ visits, Walk view [[]] visits) ∧
      (∀ visits, Walk view [[]] visits →
        ((∃ failure, walkArtifacts tokens directory visits = .error failure) ↔ view.Fails) ∧
          ∀ artifacts, walkArtifacts tokens directory visits = .ok artifacts →
            ∃ files : List (Location × ByteArray),
              (∀ names bytes,
                (names, bytes) ∈ files ↔ view.at? names = some (.file (some bytes))) ∧
              files.Pairwise (fun a b => a.1.map Path.Name.text < b.1.map Path.Name.text) ∧
              List.Forall₂ (Carries tokens) files artifacts) ∧
      ∀ (tree : FileTree) (visits : List Visit),
        tree.Bare → Walk (View.ofTree tree directory) [[]] visits →
          directoryArtifacts tree directory tokens = walkArtifacts tokens directory visits := by
  refine ⟨view.exists_walk, fun visits walk => ⟨?_, fun artifacts made => ?_⟩,
    fun tree visits bare walk => directoryArtifacts_eq_walkArtifacts bare walk⟩
  · exact walk.exists_walkArtifacts_eq_error_iff
  · obtain ⟨ascending, carried⟩ := walk.carries_of_walkArtifacts made
    exact ⟨_, fun names bytes => walk.mem_readable_iff, ascending, carried⟩

/-- A directory with a picture that is no text, notes and a description. -/
def kit : FileTree :=
  (((FileTree.empty.write ⟨"kit/a/logo.bin"⟩ ⟨#[0xff, 0xfe]⟩).1.write
    ⟨"kit/a.txt"⟩ "draft".toUTF8).1.write
    ⟨"kit/pom.xml"⟩ (Tokens.placeholder "name").toUTF8).1

/-- The picture comes before the notes, though the text of its path is the later one. -/
theorem kit_is_materialised :
    ∃ visits artifacts,
      Walk (View.ofTree kit ⟨"kit"⟩) [[]] visits ∧ ¬ (View.ofTree kit ⟨"kit"⟩).Fails ∧
        walkArtifacts ⟨"kennel", "1.2.0", "app", ""⟩ ⟨"kit"⟩ visits = .ok artifacts ∧
        artifacts.map (fun a => (a.path, a.bytes.toOption)) =
          [(⟨"a/logo.bin"⟩, some ⟨#[0xff, 0xfe]⟩), (⟨"a.txt"⟩, some "draft".toUTF8),
           (⟨"pom.xml"⟩, some "kennel".toUTF8)] ∧
        "a.txt" < "a/logo.bin" := by
  obtain ⟨⟨visits, walk⟩, all, same⟩ := directory_templates_are_complete_and_verbatim
    (View.ofTree kit ⟨"kit"⟩) ⟨"kennel", "1.2.0", "app", ""⟩ ⟨"kit"⟩
  have bare : kit.Bare := ((FileTree.bare_empty.write _ _).write _ _).write _ _
  have reached : kit.locate ⟨"kit"⟩ = .ok [FileTree.home, ⟨"kit", by decide⟩] := by decide +kernel
  have files : kit.filesBelow [FileTree.home, ⟨"kit", by decide⟩] =
      [([⟨"a", by decide⟩, ⟨"logo.bin", by decide⟩], ⟨#[0xff, 0xfe]⟩),
       ([⟨"a.txt", by decide⟩], "draft".toUTF8),
       ([⟨"pom.xml", by decide⟩], (Tokens.placeholder "name").toUTF8)] := by
    rw [FileTree.filesBelow, List.mergeSort_of_pairwise (by decide +kernel)]
    decide +kernel
  have made : (directoryArtifacts kit ⟨"kit"⟩ ⟨"kennel", "1.2.0", "app", ""⟩).toOption.map
      (List.map fun a => (a.path, a.bytes.toOption)) =
        some [(⟨"a/logo.bin"⟩, some ⟨#[0xff, 0xfe]⟩), (⟨"a.txt"⟩, some "draft".toUTF8),
          (⟨"pom.xml"⟩, some "kennel".toUTF8)] := by
    rw [directoryArtifacts_eq, reached]
    simp only [files]
    decide +kernel
  rw [same kit visits bare walk] at made
  cases done : walkArtifacts ⟨"kennel", "1.2.0", "app", ""⟩ ⟨"kit"⟩ visits with
  | error failure => simp [done, Except.toOption] at made
  | ok artifacts =>
      have succeeds := mt (all visits walk).1.2 (by simp [done])
      rw [done] at made
      exact ⟨visits, artifacts, walk, succeeds, done, Option.some.inj made, by decide⟩

end Directories

end Template
end Scaffold
