import TypedClient.Files.Tree
import TypedClient.Proofs.Outcome

/-!
# What is read where something was written

**What is proved.** `readText_writeText`: under an ordinary name a file that was written is read with the text that
it was given, its line ends made plain.

A path is followed through directories only, and writing a file changes none of them. So the way that led to a place
before leads there after (`walk_put`), and what is at the place is the file.
-/

namespace TypedClient

/-! ## Splitting a path -/

namespace Text

theorem consFirst_append {c : Char} {parts : List (List Char)} (h : parts ≠ []) (more : List (List Char)) :
    consFirst c parts ++ more = consFirst c (parts ++ more) := by
  cases parts with
  | nil => exact absurd rfl h
  | cons part rest => rfl

/-- A text is split at a separator in its middle into what its halves are split into. -/
theorem split_append (sep : Char) (cs ds : List Char) : split sep (cs ++ sep :: ds) = split sep cs ++ split sep ds := by
  induction cs with
  | nil => simp [split]
  | cons c cs ih =>
    rw [List.cons_append, split, split]
    split
    · rw [ih, List.cons_append]
    · rw [ih, consFirst_append (split_ne_nil sep cs)]

end Text

namespace Files

/-- A name that leads from a directory to something in it, which is not there whatever is written. -/
structure IsOrdinary (name : String) : Prop where
  inside : name ≠ ".."
  notStanding : ∀ above, standing? (above ++ [name]) = none

namespace Path

/-- A path to something under a name. -/
structure LeadsTo (p : Path) (name : String) : Prop where
  last : ∃ before, p.names = before ++ [name]
  notDirectory : p.ofDirectory = false

theorem ofText_leadsTo {path name : String} (counted : counts name = true) (inside : name ≠ "..")
    (last : ((Text.split '/' path.toList).map String.ofList).getLast? = some name) : (ofText path).LeadsTo name := by
  obtain ⟨before, heq⟩ := List.getLast?_eq_some_iff.mp last
  refine ⟨⟨before.filter counts, ?_⟩, ?_⟩
  · simp [ofText, heq, List.filter_append, counted]
  · simp [ofText, last, counted, inside]

/-- A name without a slash behind a directory is the last of the path. -/
theorem join_leadsTo (directory : String) {name : String} (counted : counts name = true) (inside : name ≠ "..")
    (whole : Text.split '/' name.toList = [name.toList]) : (ofText (join directory name)).LeadsTo name := by
  refine ofText_leadsTo counted inside ?_
  have behind : ∀ cs : List Char,
      ((Text.split '/' (cs ++ '/' :: name.toList)).map String.ofList).getLast? = some name := by
    intro cs
    simp [Text.split_append, whole]
  unfold join
  split
  · simp [whole]
  · split
    · next slash =>
      obtain ⟨cs, heq⟩ := List.getLast?_eq_some_iff.mp slash
      simpa [heq] using behind cs
    · simpa using behind directory.toList

end Path

namespace FileTree

variable {t : FileTree}

/-! ## Following a path -/

theorem lookup_filter_ne (nodes : List (Location × Node)) {place other : Location} (h : other ≠ place) :
    (nodes.filter (·.1 ≠ place)).lookup other = nodes.lookup other := by
  induction nodes with
  | nil => rfl
  | cons n rest ih =>
    by_cases here : n.1 = place
    · have passed : (other == n.1) = false := beq_eq_false_iff_ne.mpr (here ▸ h)
      rw [List.filter_cons_of_neg (by simp [here]), ih, List.lookup_cons, passed]
    · rw [List.filter_cons_of_pos (by simp [here]), List.lookup_cons, List.lookup_cons, ih]

theorem lookup_filter_self (nodes : List (Location × Node)) (place : Location) :
    (nodes.filter (·.1 ≠ place)).lookup place = none := by
  rw [List.lookup_eq_none_iff]
  intro n hn
  have kept : n.1 ≠ place := by simpa using (List.mem_filter.mp hn).2
  simpa using kept.symm

/-- What is put at a place that is free is there, and nothing changes elsewhere. -/
theorem node?_put {place : Location} {node : Node} (free : standing? place = none) (other : Location) :
    (t.put place node).node? other = if other = place then some node else t.node? other := by
  unfold node? put
  rw [List.lookup_append]
  split
  · next here =>
    subst here
    rw [free, lookup_filter_self]
    simp
  · next elsewhere =>
    rw [lookup_filter_ne _ elsewhere]
    have passed : List.lookup other [(place, node)] = none := by
      simp [List.lookup_cons, beq_eq_false_iff_ne.mpr elsewhere]
    rw [passed, Option.or_none]

/-- A way to a place stays one when a file is put where no directory is. -/
theorem walk_put {place : Location} {content : Content} (free : standing? place = none)
    (noDirectory : t.node? place ≠ some .directory) {start target : Location} {names : List String}
    (h : t.walk start names = .ok target) : (t.put place (.file content)).walk start names = .ok target := by
  induction names generalizing start with
  | nil => exact h
  | cons name rest ih =>
    rw [walk] at h ⊢
    split at h
    · next up =>
      rw [if_pos up]
      exact ih h
    · next down =>
      rw [if_neg down]
      split at h
      · cases h
      · next short =>
        rw [if_neg short, node?_put free]
        split at h
        · cases h
        · next directory =>
          have elsewhere : start ++ [name] ≠ place := fun here => noDirectory (here ▸ directory)
          rw [if_neg elsewhere, directory]
          exact ih h
        · next file =>
          by_cases here : start ++ [name] = place
          · rw [if_pos here]
            exact h
          · rw [if_neg here, file]
            exact h

/-- Through a directory the way goes on. -/
theorem walk_append {start between : Location} {front : List String} (h : t.walk start front = .ok between)
    (directory : t.node? between = some .directory) (names : List String) :
    t.walk start (front ++ names) = t.walk between names := by
  induction front generalizing start with
  | nil =>
    cases h
    rfl
  | cons name rest ih =>
    rw [List.cons_append, walk]
    rw [walk] at h
    split at h
    · next up =>
      rw [if_pos up]
      exact ih h
    · next down =>
      rw [if_neg down]
      split at h
      · cases h
      · next short =>
        rw [if_neg short]
        split at h
        · cases h
        · exact ih h
        · next file =>
          split at h
          · cases h
            cases file.symm.trans directory
          · cases h

/-- One step down. -/
theorem walk_name {name : String} (inside : name ≠ "..") (directory : Location) : t.walk directory [name] =
    if maxNameSize < name.utf8ByteSize then .error .tooLong
    else if (t.node? (directory ++ [name])).isSome then .ok (directory ++ [name]) else .error .absent := by
  rw [walk, if_neg inside]
  split
  · rfl
  · cases t.node? (directory ++ [name]) with
    | none => rfl
    | some node => cases node <;> rfl

/-- A way that ends with an ordinary name leads to something under it. -/
theorem exists_of_walk {name : String} (inside : name ≠ "..") {start target : Location} {front : List String}
    (h : t.walk start (front ++ [name]) = .ok target) : ∃ above, target = above ++ [name] := by
  induction front generalizing start with
  | nil =>
    rw [List.nil_append, walk, if_neg inside] at h
    split at h
    · cases h
    · split at h
      · cases h
      · cases h
        exact ⟨start, rfl⟩
      · cases h
        exact ⟨start, rfl⟩
  | cons first rest ih =>
    rw [List.cons_append, walk] at h
    split at h
    · exact ih h
    · split at h
      · cases h
      · split at h
        · cases h
        · exact ih h
        · simp at h

/-! ## Writing and reading -/

/-- What is found at a path is at the place that it leads to, and only a directory where the path asks for one. -/
theorem find_eq (path : String) : t.find path = match pathFault? path with
    | some fault => .error fault
    | none => (t.walk (startOf (Path.ofText path)) (Path.ofText path).names).bind fun place =>
      match t.node? place with
      | none => .error .absent
      | some .directory => .ok (place, .directory)
      | some (.file content) =>
        if (Path.ofText path).ofDirectory then .error .notDirectory else .ok (place, .file content) := by
  unfold find
  cases pathFault? path <;> rfl

theorem of_find {path : String} {place : Location} {node : Node} (h : t.find path = .ok (place, node)) :
    pathFault? path = none ∧ t.walk (startOf (Path.ofText path)) (Path.ofText path).names = .ok place ∧
      t.node? place = some node := by
  rw [find_eq] at h
  split at h
  · cases h
  · next sound =>
    refine ⟨sound, ?_⟩
    cases way : t.walk (startOf (Path.ofText path)) (Path.ofText path).names with
    | error fault =>
      rw [way] at h
      cases h
    | ok target =>
      rw [way] at h
      dsimp only [Except.bind] at h
      split at h
      · cases h
      · next directory =>
        cases h
        exact ⟨rfl, directory⟩
      · next file =>
        split at h
        · cases h
        · cases h
          exact ⟨rfl, file⟩

/-- Where there is nothing at a path with a name, nothing is wrong with the path, and it ends where nothing is. -/
theorem of_find_absent {path : String} (named : path ≠ "") (h : t.find path = .error .absent) :
    pathFault? path = none ∧ (t.walk (startOf (Path.ofText path)) (Path.ofText path).names = .error .absent ∨
      ∃ place, t.walk (startOf (Path.ofText path)) (Path.ofText path).names = .ok place ∧ t.node? place = none) := by
  rw [find_eq] at h
  split at h
  · next fault unsound =>
    cases h
    unfold pathFault? at unsound
    split_ifs at unsound <;> cases unsound
  · next sound =>
    refine ⟨sound, ?_⟩
    cases way : t.walk (startOf (Path.ofText path)) (Path.ofText path).names with
    | error fault =>
      rw [way] at h
      cases h
      exact .inl rfl
    | ok target =>
      rw [way] at h
      dsimp only [Except.bind] at h
      split at h
      · next nothing => exact .inr ⟨target, rfl, nothing⟩
      · cases h
      · split at h <;> cases h

/-- Where a file was put at the end of the way to a path, it is read. -/
theorem readText_put {path text : String} {place : Location} (free : standing? place = none)
    (sound : pathFault? path = none) (file : (Path.ofText path).ofDirectory = false)
    (way : (t.put place (.file (.text text))).walk (startOf (Path.ofText path)) (Path.ofText path).names = .ok place) :
    (t.put place (.file (.text text))).readText path = .ok (String.ofList (plainLineEnds text.toList)) := by
  have there : (t.put place (.file (.text text))).node? place = some (.file (.text text)) := by
    rw [node?_put free, if_pos rfl]
  have found : (t.put place (.file (.text text))).find path = .ok (place, .file (.text text)) := by
    rw [find_eq, sound]
    simp [way, Except.bind, there, file]
  rw [readText, found]
  rfl

/-- A file that is put into a directory under a new name is found on the way through the directory. -/
theorem walk_put_new {name : String} {start directory : Location} {front : List String} {content : Content}
    (ordinary : IsOrdinary name) (way : t.walk start front = .ok directory)
    (isDirectory : t.node? directory = some .directory) (short : ¬ maxNameSize < name.utf8ByteSize)
    (fresh : t.node? (directory ++ [name]) = none) :
    (t.put (directory ++ [name]) (.file content)).walk start (front ++ [name]) = .ok (directory ++ [name]) := by
  have free := ordinary.notStanding directory
  have way' := @walk_put t _ content free (by simp [fresh]) _ _ _ way
  have stays : (t.put (directory ++ [name]) (.file content)).node? directory = some .directory := by
    rw [node?_put free, if_neg (by simp), isDirectory]
  rw [walk_append way' stays, walk_name ordinary.inside, if_neg short, node?_put free, if_pos rfl]
  rfl

/-- Where a way through a directory ends at nothing, the name is not too long and new in the directory. -/
theorem new_of_walk {name : String} {start directory : Location} {front : List String} (inside : name ≠ "..")
    (way : t.walk start front = .ok directory) (isDirectory : t.node? directory = some .directory)
    (nothing : t.walk start (front ++ [name]) = .error .absent ∨
      ∃ place, t.walk start (front ++ [name]) = .ok place ∧ t.node? place = none) :
    ¬ maxNameSize < name.utf8ByteSize ∧ t.node? (directory ++ [name]) = none := by
  rw [walk_append way isDirectory, walk_name inside] at nothing
  have short : ¬ maxNameSize < name.utf8ByteSize := by
    intro long
    simp [long] at nothing
  refine ⟨short, ?_⟩
  cases there : t.node? (directory ++ [name]) with
  | none => rfl
  | some node => simp [short, there] at nothing

/-- **What was written is read**: under an ordinary name, with its line ends made plain. -/
theorem readText_writeText {path text name : String} (ordinary : IsOrdinary name)
    (leads : (Path.ofText path).LeadsTo name) {written : FileTree} (h : t.writeText path text = .ok written) :
    written.readText path = .ok (String.ofList (plainLineEnds text.toList)) := by
  obtain ⟨⟨front, names⟩, file⟩ := leads
  unfold writeText at h
  dsimp only at h
  split at h
  · cases h
  · next place content found =>
    -- the file was there before
    cases h
    obtain ⟨sound, way, there⟩ := of_find found
    obtain ⟨above, rfl⟩ := exists_of_walk ordinary.inside (names ▸ way)
    have free := ordinary.notStanding above
    exact readText_put free sound file (walk_put free (by simp [there]) way)
  · next absent =>
    -- a new file in a directory
    split at h
    · cases h
    · next named =>
      obtain ⟨sound, nothing⟩ := of_find_absent named absent
      rw [names] at nothing
      rw [names, List.getLast?_concat, List.dropLast_concat] at h
      split at h
      · next last directory hlast way =>
        cases hlast
        split at h
        · next isDirectory =>
          split at h
          · cases h
          · cases h
            obtain ⟨short, fresh⟩ := new_of_walk ordinary.inside way isDirectory nothing
            refine readText_put (ordinary.notStanding directory) sound file ?_
            rw [names]
            exact walk_put_new ordinary way isDirectory short fresh
        · cases h
      · cases h
      · cases h
  · cases h

end FileTree

end Files

end TypedClient
