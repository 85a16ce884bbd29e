import TileQuest.Proofs.Outcome
import TileQuest.Proofs.Text.Reading

/-!
# A file is read back as it was written

A path is followed through folders only, so putting a file where a path leads does not change where
that path, or any other that could be followed, leads. Hence `Disk.read_put`: what was put in the
place of a path is what is read there. `Disk.append_put` is how a file grows while it is written.
-/

namespace TileQuest.Disk

variable {here there spot other : Spot} {name path : String} {d : Disk} {node : Node}

def IsOrdinary (spot : Spot) : Prop := isAroundTop spot = false ∧ spot ≠ outerTop

/-! ## What is where -/

lemma node?_put_self (h : IsOrdinary spot) : (d.put spot node).node? spot = some node := by
  have hold : (d.nodes.filter fun row => row.1 != spot).find? (fun row => row.1 == spot) = none := by
    simp [List.find?_eq_none]
  rw [node?, if_neg (by simp [h.1, h.2]), put, List.find?_append, hold]
  simp

lemma node?_put_of_ne (h : other ≠ spot) : (d.put spot node).node? other = d.node? other := by
  have hfilter : (d.nodes.filter fun row => row.1 != spot).find? (fun row => row.1 == other) =
      d.nodes.find? fun row => row.1 == other := by
    rw [List.find?_filter]
    congr 1
    funext row
    by_cases hrow : row.1 = other
    · simp [hrow, h]
    · simp [hrow]
  rw [node?, node?, put, List.find?_append, hfilter]
  simp [Ne.symm h]

lemma put_put (first : Node) : (d.put spot first).put spot node = d.put spot node := by
  simp [put, List.filter_append, List.filter_filter]

lemma append_put (h : IsOrdinary spot) (old data : List UInt8) :
    (d.put spot (.file (.bytes old))).append spot data =
      d.put spot (.file (.bytes (old ++ data))) := by
  rw [append, node?_put_self h]
  exact put_put _

/-! ## Where paths lead -/

section Following

variable {data : FileData}

section

variable (hspot : d.node? spot ≠ some .folder)
include hspot

lemma enter_put (h : d.enter here name = .ok there) :
    (d.put spot (.file data)).enter here name = .ok there := by
  unfold enter at h ⊢
  split at h
  · rw [if_pos ‹_›]
    exact h
  rw [if_neg ‹_›]
  split at h
  · rw [if_pos ‹_›]
    exact h
  rw [if_neg ‹_›]
  obtain ⟨_, hname, h⟩ := bind_eq_ok.1 h
  rw [hname, ok_bind]
  by_cases hne : here ++ [name] = spot
  · -- A folder in the place of the file could not have been entered.
    rw [hne] at h
    cases hn : d.node? spot with
    | none => rw [hn] at h; cases h
    | some node =>
      cases node with
      | folder => exact absurd hn hspot
      | file _ => rw [hn] at h; cases h
  · rw [node?_put_of_ne hne]
    exact h

lemma walk_put {names : List String} (h : d.walk here names = .ok there) :
    (d.put spot (.file data)).walk here names = .ok there := by
  induction names generalizing here with
  | nil => exact h
  | cons name names ih =>
    rw [walk, List.foldlM_cons] at h ⊢
    obtain ⟨next, hnext, h⟩ := bind_eq_ok.1 h
    rw [enter_put hspot hnext, ok_bind]
    exact ih h

lemma follow_put {goal : Goal}
    (h : d.follow path = .ok goal) : (d.put spot (.file data)).follow path = .ok goal := by
  unfold follow at h ⊢
  obtain ⟨_, hpath, h⟩ := bind_eq_ok.1 h
  rw [hpath, ok_bind]
  simp only at h ⊢
  split at h
  · exact h
  · obtain ⟨here, hhere, h⟩ := bind_eq_ok.1 h
    rw [walk_put hspot hhere, ok_bind]
    exact h

end

end Following

lemma isOrdinary_of_follow {folder : Spot} {endsInSlash : Bool}
    (h : d.follow path = .ok (.named folder name endsInSlash)) : IsOrdinary (folder ++ [name]) := by
  unfold follow at h
  obtain ⟨-, -, h⟩ := bind_eq_ok.1 h
  simp only at h
  split at h
  · cases h
  · rename_i last before htrimmed
    obtain ⟨here, -, h⟩ := bind_eq_ok.1 h
    have hmem : last ∈ Text.split '/' path := by
      have hlast : last ∈ (Text.split '/' path).reverse.dropWhile (·.isEmpty) :=
        htrimmed ▸ List.mem_cons_self
      exact List.mem_reverse.1 ((List.dropWhile_sublist _).subset hlast)
    split at h
    · cases h
    split at h
    · cases h
    · rename_i hdots
      cases h
      constructor
      · simp [isAroundTop, hdots]
      · intro htop
        have hslash : name = "/" := by
          simpa [outerTop] using congrArg List.getLast? htop
        exact Text.not_mem_of_mem_split hmem (by simp [hslash])

lemma fileSpot_eq_ok (h : d.fileSpot path = .ok spot) :
    ∃ folder name, d.follow path = .ok (.named folder name false) ∧ checkName name = .ok () ∧
      spot = folder ++ [name] ∧ d.node? spot ≠ some .folder := by
  obtain ⟨goal, hgoal, h⟩ := bind_eq_ok.1 h
  cases goal with
  | folder _ => cases h
  | named folder name endsInSlash =>
    simp only at h
    cases endsInSlash with
    | true => cases h
    | false =>
      obtain ⟨_, hn, h⟩ := bind_eq_ok.1 h
      refine ⟨folder, name, hgoal, hn, ?_⟩
      split at h
      · cases h
      · cases h
        exact ⟨rfl, ‹_›⟩

lemma exists_fileSpot_of_read {data : FileData} (h : d.read path = .ok data) :
    ∃ spot, d.fileSpot path = .ok spot := by
  obtain ⟨⟨spot, node⟩, hfind, hn⟩ := bind_eq_ok.1 h
  obtain ⟨goal, hgoal, hfind⟩ := bind_eq_ok.1 hfind
  cases goal with
  | folder spot' =>
    cases hfind
    cases hn
  | named folder name endsInSlash =>
    obtain ⟨_, hname, hfind⟩ := bind_eq_ok.1 hfind
    cases hat : d.node? (folder ++ [name]) with
    | none => simp [hat] at hfind
    | some node' =>
      simp only [hat] at hfind
      cases node' with
      | folder =>
        cases hfind
        cases hn
      | file data' =>
        cases endsInSlash with
        | true => cases hfind
        | false =>
          refine ⟨folder ++ [name], ?_⟩
          rw [fileSpot, hgoal, ok_bind]
          simp only [Bool.false_eq_true, if_false, hname, ok_bind, hat]
          rfl

lemma read_put (data : FileData) (h : d.fileSpot path = .ok spot) :
    IsOrdinary spot ∧ (d.put spot (.file data)).read path = .ok data := by
  obtain ⟨folder, name, hfol, hname, rfl, hn⟩ := fileSpot_eq_ok h
  have hord := isOrdinary_of_follow hfol
  refine ⟨hord, ?_⟩
  simp only [read, find, follow_put hn hfol, ok_bind, hname, node?_put_self hord]
  rfl

lemma mem_nodes_of_node? {data : FileData} (h : d.node? spot = some (.file data)) :
    (spot, .file data) ∈ d.nodes := by
  rw [node?] at h
  split at h
  · cases h
  · obtain ⟨row, hrow, hdata⟩ := Option.map_eq_some_iff.1 h
    have hspot : row.1 = spot := by simpa using List.find?_some hrow
    have hmem := List.mem_of_find?_eq_some hrow
    rwa [show row = (spot, .file data) from Prod.ext hspot hdata] at hmem

lemma mem_nodes_of_read {data : FileData} (h : d.read path = .ok data) :
    ∃ spot, (spot, Node.file data) ∈ d.nodes := by
  obtain ⟨⟨spot, node⟩, hfind, hn⟩ := bind_eq_ok.1 h
  cases node with
  | folder => cases hn
  | file data' =>
    cases hn
    obtain ⟨goal, -, hgoal⟩ := bind_eq_ok.1 hfind
    cases goal with
    | folder spot' => cases hgoal
    | named folder name endsInSlash =>
      obtain ⟨-, -, hn⟩ := bind_eq_ok.1 hgoal
      rcases hat : d.node? (folder ++ [name]) with _ | _ | data'
      · simp [hat] at hn
      · simp only [hat] at hn
        cases hn
      · simp only [hat] at hn
        split at hn
        · cases hn
        · cases hn
          exact ⟨_, mem_nodes_of_node? hat⟩

end TileQuest.Disk
