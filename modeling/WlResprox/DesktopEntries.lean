import WlResprox.Trackers
import WlResprox.Wire

set_option autoImplicit false

namespace WlResprox

-- The parts of Rust's str and Path that reading an entry uses, on characters.
abbrev Text := List Char

def isWhitespace (c : Char) : Bool :=
  let n := c.toNat
  (9 ≤ n && n ≤ 13) || n = 0x20 || n = 0x85 || n = 0xa0 || n = 0x1680 || (0x2000 ≤ n && n ≤ 0x200a) || n = 0x2028 ||
    n = 0x2029 || n = 0x202f || n = 0x205f || n = 0x3000

def trim (text : Text) : Text := ((text.dropWhile isWhitespace).reverse.dropWhile isWhitespace).reverse

def splitInclusive : Text → List Text
  | [] => []
  | c :: rest =>
      if c = '\n' then [c] :: splitInclusive rest
      else
        match splitInclusive rest with
        | [] => [[c]]
        | line :: more => (c :: line) :: more

-- A carriage return goes only together with the line feed behind it.
def withoutEnding (line : Text) : Text :=
  match line.dropSuffix? ['\n'] with
  | none => line
  | some stripped => (stripped.dropSuffix? ['\r']).getD stripped

def lines (text : Text) : List Text := (splitInclusive text).map withoutEnding

def firstToken (text : Text) : Option Text :=
  match (text.dropWhile isWhitespace).takeWhile (!isWhitespace ·) with
  | [] => none
  | token => some token

-- The last component of a path that is a name: a trailing slash or dot does
-- not count, and a path that ends in two dots or is a root has none.
def pathFileName (path : Text) : Option Text :=
  match ((path.splitOn '/').filter fun part => part ≠ [] ∧ part ≠ ['.']).getLast? with
  | none => none
  | some part => if part = ['.', '.'] then none else some part

-- A name's stem and extension: the last dot parts them unless it comes first.
def splitExtension (name : Text) : Text × Option Text :=
  let extension := (name.reverse.takeWhile (· ≠ '.')).reverse
  if '.' ∈ name then
    match name.take (name.length - extension.length - 1) with
    | [] => (name, none)
    | stem => (stem, some extension)
  else (name, none)

def groupName (line : Text) : Option Text := (line.dropPrefix? ['[']).bind (·.dropSuffix? [']'])

def desktopEntry : Text := "Desktop Entry".toList

def execKey : Text := "Exec=".toList

def mainEntryExecFrom (inMainEntry : Bool) : List Text → Option Text
  | [] => none
  | line :: rest =>
      match groupName (trim line) with
      | some group => mainEntryExecFrom (group = desktopEntry) rest
      | none =>
          if inMainEntry then
            match (trim line).dropPrefix? execKey with
            | some value => some value
            | none => mainEntryExecFrom inMainEntry rest
          else mainEntryExecFrom inMainEntry rest

def mainEntryExec (content : Text) : Option Text := mainEntryExecFrom false (lines content)

def execBinaryName (exec : Text) : Option Text := (firstToken exec).bind pathFileName

-- Names longer than this no file system gives out.
structure FileName where
  name : String
  short : (asBytes name).length ≤ 255

-- One entry of a directory: a name that is text or not, and what reading the
-- file gave, if it could be read as text.
structure DirEntry where
  name : Option FileName
  content : Option String

-- What read_dir gave: nothing, or entries that may each have failed.
abbrev Directory := Option (List (Option DirEntry))

namespace DesktopAppIndex

def empty : DesktopAppIndex := ⟨[], ∅⟩

def orInsert (byBinary : AList fun _ : String => String) (binary id : String) : AList fun _ : String => String :=
  match byBinary.lookup binary with
  | some _ => byBinary
  | none => byBinary.insert binary id

def addEntry (index : DesktopAppIndex) : Option DirEntry → DesktopAppIndex
  | none => index
  | some entry =>
      match entry.name with
      | none => index
      | some file =>
          match splitExtension file.name.toList with
          | (_, none) => index
          | (stem, some extension) =>
              if extension ≠ "desktop".toList then index
              else
                let id := String.ofList stem
                let byBinary :=
                  match entry.content with
                  | none => index.byBinary
                  | some content =>
                      match (mainEntryExec content.toList).bind execBinaryName with
                      | none => index.byBinary
                      | some binary => orInsert index.byBinary (String.ofList binary) id
                ⟨index.ids.insert id, byBinary⟩

def addDirectory (index : DesktopAppIndex) : Directory → DesktopAppIndex
  | none => index
  | some entries => entries.foldl addEntry index

def buildFromDirs (dirs : List Directory) : DesktopAppIndex := dirs.foldl addDirectory empty

end DesktopAppIndex

-- A file that counts as an entry, in the order in which the scan meets them.
structure DesktopFile where
  id : String
  content : Option String

def desktopFile : Option DirEntry → Option DesktopFile
  | none => none
  | some entry =>
      match entry.name with
      | none => none
      | some file =>
          match splitExtension file.name.toList with
          | (_, none) => none
          | (stem, some extension) => if extension ≠ "desktop".toList then none else some ⟨String.ofList stem, entry.content⟩

def scan (dirs : List Directory) : List DesktopFile := dirs.flatMap fun dir => (dir.getD []).filterMap desktopFile

-- The group whose header came last.
def inForce (before : List Text) : Option Text := (before.filterMap groupName).getLast?

-- The first Exec line that stands in the main group, and its value.
def DeclaresExec (content exec : Text) : Prop :=
  ∃ before after, (lines content).map trim = before ++ (execKey ++ exec) :: after ∧ inForce before = some desktopEntry ∧
    ∀ earlier value later, before = earlier ++ (execKey ++ value) :: later → inForce earlier ≠ some desktopEntry

theorem drop_exec_iff (line value : Text) : line.dropPrefix? execKey = some value ↔ line = execKey ++ value := by
  rw [List.dropPrefix?_eq_some_iff]
  simp

theorem exec_no_group (value : Text) : groupName (execKey ++ value) = none := by
  simp [groupName, execKey, List.dropPrefix?]

-- Whether the main group is in force after these lines, if it was before them.
def stillInMain (inMainEntry : Bool) (before : List Text) : Bool :=
  match inForce before with
  | none => inMainEntry
  | some group => group = desktopEntry

theorem in_force_cons (line : Text) (before : List Text) :
    inForce (line :: before) = (inForce before).or (groupName line) := by
  simp only [inForce, List.filterMap_cons]
  cases groupName line with
  | none => simp
  | some group =>
      rw [List.getLast?_cons]
      cases (before.filterMap groupName).getLast? <;> rfl

theorem still_cons_group (inMainEntry : Bool) (line group : Text) (before : List Text) (header : groupName line = some group) :
    stillInMain inMainEntry (line :: before) = stillInMain (group = desktopEntry) before := by
  simp only [stillInMain, in_force_cons, header]
  cases inForce before <;> rfl

theorem still_cons_plain (inMainEntry : Bool) (line : Text) (before : List Text) (plain : groupName line = none) :
    stillInMain inMainEntry (line :: before) = stillInMain inMainEntry before := by
  simp only [stillInMain, in_force_cons, plain]
  cases inForce before <;> rfl

def ExecWithin (inMainEntry : Bool) (trimmed : List Text) (exec : Text) : Prop :=
  ∃ before after, trimmed = before ++ (execKey ++ exec) :: after ∧ stillInMain inMainEntry before = true ∧
    ∀ earlier value later, before = earlier ++ (execKey ++ value) :: later → stillInMain inMainEntry earlier = false

-- A line that is not itself the one sought only moves the search on.
theorem exec_within_cons (inMainEntry now : Bool) (line exec : Text) (rest : List Text)
    (moves : ∀ before, stillInMain inMainEntry (line :: before) = stillInMain now before)
    (skipped : ∀ value, line = execKey ++ value → inMainEntry = false) :
    ExecWithin inMainEntry (line :: rest) exec ↔ ExecWithin now rest exec := by
  constructor
  · rintro ⟨before, after, split, reached, first⟩
    cases before with
    | nil =>
        obtain ⟨same, -⟩ := List.cons.inj split
        have outside := skipped exec same
        rw [stillInMain, inForce, outside] at reached
        cases reached
    | cons head before =>
        obtain ⟨rfl, behind⟩ := List.cons.inj split
        exact ⟨before, after, behind, (moves before).symm.trans reached,
          fun earlier value later is => (moves earlier).symm.trans (first (line :: earlier) value later (by rw [is]; rfl))⟩
  · rintro ⟨before, after, split, reached, first⟩
    refine ⟨line :: before, after, by rw [split]; rfl, (moves before).trans reached, fun earlier value later is => ?_⟩
    cases earlier with
    | nil => exact skipped value (List.cons.inj is).1
    | cons head earlier =>
        obtain ⟨rfl, behind⟩ := List.cons.inj is
        exact (moves earlier).trans (first earlier value later behind)

theorem main_entry_exec_within (inMainEntry : Bool) (unread : List Text) (exec : Text) :
    mainEntryExecFrom inMainEntry unread = some exec ↔ ExecWithin inMainEntry (unread.map trim) exec := by
  induction unread generalizing inMainEntry with
  | nil => simp [mainEntryExecFrom, ExecWithin]
  | cons line rest ih =>
      rw [mainEntryExecFrom, List.map_cons]
      cases header : groupName (trim line) with
      | some group =>
          dsimp only
          rw [ih, exec_within_cons inMainEntry (group = desktopEntry) _ _ _ (fun before => still_cons_group _ _ _ _ header)]
          intro value same
          rw [same, exec_no_group] at header
          cases header
      | none =>
          have moves := fun before => still_cons_plain inMainEntry (trim line) before header
          cases inMainEntry with
          | false =>
              simp only [Bool.false_eq_true, if_false]
              rw [ih, exec_within_cons false false _ _ _ moves (fun _ _ => rfl)]
          | true =>
              simp only [if_true]
              cases found : (trim line).dropPrefix? execKey with
              | none =>
                  dsimp only
                  rw [ih, exec_within_cons true true _ _ _ moves]
                  intro value same
                  rw [(drop_exec_iff _ value).mpr same] at found
                  cases found
              | some value =>
                  have same := (drop_exec_iff _ value).mp found
                  constructor
                  · intro is
                    cases is
                    exact ⟨[], rest.map trim, by rw [same]; rfl, rfl, fun earlier _ _ is => by simp at is⟩
                  · rintro ⟨before, after, split, -, first⟩
                    cases before with
                    | nil =>
                        rw [same] at split
                        rw [List.append_cancel_left (List.cons.inj split).1]
                    | cons head before =>
                        obtain ⟨rfl, -⟩ := List.cons.inj split
                        have outside := first [] value before (by rw [same]; rfl)
                        cases outside

theorem main_entry_exec_iff (content exec : Text) : mainEntryExec content = some exec ↔ DeclaresExec content exec := by
  have starts : ∀ before, stillInMain false before = true ↔ inForce before = some desktopEntry := by
    intro before
    unfold stillInMain
    cases inForce before <;> simp
  rw [mainEntryExec, main_entry_exec_within]
  simp only [ExecWithin, DeclaresExec, starts, ← Bool.not_eq_true]

namespace DesktopFile

def Launches (file : DesktopFile) (binary : String) : Prop :=
  ∃ content exec token, file.content = some content ∧ DeclaresExec content.toList exec ∧ firstToken exec = some token ∧
    pathFileName token = some binary.toList

def binary (file : DesktopFile) : Option String :=
  (file.content.bind fun content => (mainEntryExec content.toList).bind execBinaryName).map String.ofList

theorem binary_iff (file : DesktopFile) (binary : String) : file.binary = some binary ↔ file.Launches binary := by
  simp only [DesktopFile.binary, Launches, Option.map_eq_some_iff, Option.bind_eq_some_iff, main_entry_exec_iff, execBinaryName]
  constructor
  · rintro ⟨name, ⟨content, read, exec, declares, token, first, named⟩, rfl⟩
    exact ⟨content, exec, token, read, declares, first, by rw [named, String.toList_ofList]⟩
  · rintro ⟨content, exec, token, read, declares, first, named⟩
    exact ⟨binary.toList, ⟨content, read, exec, declares, token, first, named⟩, String.ofList_toList⟩

end DesktopFile

namespace DesktopAppIndex

def addFile (index : DesktopAppIndex) (file : DesktopFile) : DesktopAppIndex :=
  ⟨index.ids.insert file.id,
    match file.binary with
    | none => index.byBinary
    | some binary => orInsert index.byBinary binary file.id⟩

theorem add_entry_file (index : DesktopAppIndex) (entry : Option DirEntry) :
    index.addEntry entry = ((desktopFile entry).map index.addFile).getD index := by
  unfold addEntry desktopFile
  cases entry with
  | none => rfl
  | some entry =>
      cases name : entry.name with
      | none => simp [name]
      | some file =>
          simp only [name]
          obtain ⟨stem, extension⟩ := splitExtension file.name.toList
          cases extension with
          | none => rfl
          | some extension =>
              dsimp only
              split
              · rfl
              · simp only [Option.map_some, Option.getD_some, addFile, DesktopFile.binary]
                congr 1
                cases entry.content with
                | none => rfl
                | some content =>
                    simp only [Option.bind_some]
                    cases (mainEntryExec content.toList).bind execBinaryName <;> rfl

theorem build_from_dirs_scan (dirs : List Directory) : buildFromDirs dirs = (scan dirs).foldl addFile empty := by
  unfold buildFromDirs scan
  generalize empty = index
  induction dirs generalizing index with
  | nil => rfl
  | cons dir rest ih =>
      have added : index.addDirectory dir = ((dir.getD []).filterMap desktopFile).foldl addFile index := by
        cases dir with
        | none => rfl
        | some entries =>
            simp only [addDirectory, Option.getD_some]
            induction entries generalizing index with
            | nil => rfl
            | cons entry entries more =>
                rw [List.foldl_cons, more, add_entry_file]
                cases found : desktopFile entry with
                | none => simp [found]
                | some file => simp [found]
      rw [List.foldl_cons, ih, List.flatMap_cons, List.foldl_append, added]

theorem or_insert_lookup (byBinary : AList fun _ : String => String) (binary id query : String) :
    (orInsert byBinary binary id).lookup query = (byBinary.lookup query).or (if binary = query then some id else none) := by
  unfold orInsert
  cases known : byBinary.lookup binary with
  | some other =>
      by_cases same : binary = query
      · subst same
        simp [known]
      · simp [same]
  | none =>
      by_cases same : binary = query
      · subst same
        simp [known]
      · simp only [if_neg same, Option.or_none]
        rw [AList.lookup_insert_ne (Ne.symm same)]

theorem add_files_ids (files : List DesktopFile) (index : DesktopAppIndex) (appId : String) :
    (files.foldl addFile index).hasId appId = (index.hasId appId || files.any fun file => file.id = appId) := by
  induction files generalizing index with
  | nil => simp
  | cons file rest ih =>
      rw [List.foldl_cons, ih, List.any_cons, ← Bool.or_assoc]
      congr 1
      simp only [hasId, addFile, List.mem_insert_iff, Bool.decide_or]
      rw [Bool.or_comm]
      simp [eq_comm]

-- The index answers with the first file that has the binary.
theorem add_files_binary (files : List DesktopFile) (index : DesktopAppIndex) (binary : String) :
    (files.foldl addFile index).resolveByBinary binary =
      (index.resolveByBinary binary).or ((files.find? fun file => file.binary = some binary).map DesktopFile.id) := by
  induction files generalizing index with
  | nil => simp
  | cons file rest ih =>
      rw [List.foldl_cons, ih, List.find?_cons]
      have first : (index.addFile file).resolveByBinary binary =
          (index.resolveByBinary binary).or (if file.binary = some binary then some file.id else none) := by
        unfold resolveByBinary addFile
        cases named : file.binary with
        | none => simp
        | some other =>
            dsimp only
            rw [or_insert_lookup]
            simp
      rw [first, Option.or_assoc]
      congr 1
      by_cases here : file.binary = some binary <;> simp [here]

theorem has_id_iff (dirs : List Directory) (appId : String) :
    (buildFromDirs dirs).hasId appId = true ↔ ∃ file ∈ scan dirs, file.id = appId := by
  rw [build_from_dirs_scan, add_files_ids]
  simp [hasId, empty]

theorem resolve_by_binary_first (dirs : List Directory) (binary : String) :
    (buildFromDirs dirs).resolveByBinary binary =
      ((scan dirs).find? fun file => file.binary = some binary).map DesktopFile.id := by
  rw [build_from_dirs_scan, add_files_binary]
  simp [resolveByBinary, empty]

theorem resolve_by_binary_none (dirs : List Directory) (binary : String) (unlaunched : ∀ file ∈ scan dirs, ¬ file.Launches binary) :
    (buildFromDirs dirs).resolveByBinary binary = none := by
  rw [resolve_by_binary_first, List.find?_eq_none.mpr]
  · rfl
  · intro file among
    simpa [DesktopFile.binary_iff] using unlaunched file among

theorem resolve_by_binary_some (dirs : List Directory) (binary : String) (before : List DesktopFile) (file : DesktopFile)
    (after : List DesktopFile) (split : scan dirs = before ++ file :: after) (launches : file.Launches binary)
    (first : ∀ earlier ∈ before, ¬ earlier.Launches binary) : (buildFromDirs dirs).resolveByBinary binary = some file.id := by
  have passed : (before.find? fun file => file.binary = some binary) = none := by
    apply List.find?_eq_none.mpr
    intro earlier among
    simpa [DesktopFile.binary_iff] using first earlier among
  rw [resolve_by_binary_first, split, List.find?_append, passed, List.find?_cons]
  simp [(DesktopFile.binary_iff file binary).mpr launches]

theorem resolved_installed (dirs : List Directory) (binary id : String)
    (resolved : (buildFromDirs dirs).resolveByBinary binary = some id) : ∃ file ∈ scan dirs, file.id = id := by
  rw [resolve_by_binary_first] at resolved
  obtain ⟨file, found, same⟩ := Option.map_eq_some_iff.mp resolved
  exact ⟨file, List.mem_of_find?_eq_some found, same⟩

end DesktopAppIndex

theorem as_bytes_append (a b : Text) :
    (asBytes (String.ofList (a ++ b))).length = (asBytes (String.ofList a)).length + (asBytes (String.ofList b)).length := by
  rw [asBytes, String.ofList_append]
  simp [asBytes]

-- A stem is the beginning of its name.
theorem split_extension_prefix (name stem : Text) (extension : Option Text) (split : splitExtension name = (stem, extension)) :
    ∃ rest, name = stem ++ rest := by
  unfold splitExtension at split
  dsimp only at split
  split at split
  · split at split
    · cases split
      exact ⟨[], by simp⟩
    · cases split
      exact ⟨_, (List.take_append_drop _ name).symm⟩
  · cases split
    exact ⟨[], by simp⟩

theorem scan_id_short (dirs : List Directory) (file : DesktopFile) (scanned : file ∈ scan dirs) :
    (asBytes file.id).length ≤ 255 := by
  obtain ⟨dir, -, within⟩ := List.mem_flatMap.mp scanned
  obtain ⟨entry, -, read⟩ := List.mem_filterMap.mp within
  unfold desktopFile at read
  split at read
  · cases read
  · split at read
    · cases read
    · rename_i entry file named
      split at read
      · cases read
      · rename_i stem extension split
        split at read
        · cases read
        · cases read
          obtain ⟨rest, whole⟩ := split_extension_prefix _ _ _ split
          have short := file.short
          have total := as_bytes_append stem rest
          rw [← whole, String.ofList_toList] at total
          show (asBytes (String.ofList stem)).length ≤ 255
          omega

end WlResprox
