/-
This file proves what the choice among candidates depends on.

The candidates pass two filters, each of which is dropped if it would leave nothing (`preferring`).
So something is left whenever there was something, and what is left are candidates; hence what is
chosen is one of the candidates, and where there are candidates one of them is chosen. A filter
looks at each candidate by itself. The one for the receiver asks for the parent of a candidate, and
this is all that the choice depends on besides the candidates and the place of the reference
(`choose_congr`). Where some candidates stand in the file of the reference, the first filter leaves
exactly those, so that the choice is one among them only (`choose_filter_of_mem`).
-/
import CodeGraph.Proofs.Sorting
import CodeGraph.Resolution.Choice

namespace CodeGraph.EntityList

variable {entities others : EntityList} {candidates : List Entity} {site : Site}

/-! ### Preferences -/

section

variable {isPreferred isPreferredToo : Entity → Bool} {entity : Entity}

theorem mem_of_mem_preferring (member : entity ∈ preferring candidates isPreferred) :
    entity ∈ candidates := by
  unfold preferring at member
  simp only at member
  split at member
  · exact member
  · exact (List.mem_filter.mp member).1

theorem preferring_ne_nil (inhabited : candidates ≠ []) :
    preferring candidates isPreferred ≠ [] := by
  unfold preferring
  simp only
  split
  · exact inhabited
  · next some => exact fun none => some (List.isEmpty_iff.mpr none)

theorem preferring_eq_filter (member : entity ∈ candidates) (preferred : isPreferred entity) :
    preferring candidates isPreferred = candidates.filter isPreferred := by
  refine if_neg fun none => ?_
  exact List.filter_eq_nil_iff.mp (List.isEmpty_iff.mp none) entity member preferred

theorem preferring_congr
    (same : ∀ candidate ∈ candidates, isPreferred candidate = isPreferredToo candidate) :
    preferring candidates isPreferred = preferring candidates isPreferredToo := by
  rw [preferring, preferring, List.filter_congr same]

end

/-! ### What the file and the receiver leave -/

/-- The candidates in the file of the reference, or else all. -/
def near (candidates : List Entity) (site : Site) : List Entity :=
  preferring candidates (·.fileId == site.fileId)

/-- The candidates that the file and the receiver leave. -/
def pool (entities : EntityList) (candidates : List Entity) (site : Site) : List Entity :=
  match Site.receiverType? site.receiver site.enclosingType with
  | some typeName => preferring (near candidates site) (entities.matchesType typeName)
  | none => near candidates site

theorem choose_eq (entities : EntityList) (candidates : List Entity) (site : Site) :
    entities.choose candidates site =
      (if candidates.any (·.fileId == site.fileId) then
        leastBy? (compareDistance site.line) (entities.pool candidates site)
      else (entities.pool candidates site).head?).map
        (⟨·, (entities.pool candidates site).length⟩) := rfl

theorem mem_of_mem_pool {entity : Entity} (member : entity ∈ entities.pool candidates site) :
    entity ∈ candidates := by
  unfold pool at member
  split at member
  · exact mem_of_mem_preferring (mem_of_mem_preferring member)
  · exact mem_of_mem_preferring member

theorem pool_ne_nil (inhabited : candidates ≠ []) : entities.pool candidates site ≠ [] := by
  unfold pool
  split
  · exact preferring_ne_nil (preferring_ne_nil inhabited)
  · exact preferring_ne_nil inhabited

theorem pool_congr
    (same : ∀ candidate ∈ candidates, entities.parent? candidate = others.parent? candidate) :
    entities.pool candidates site = others.pool candidates site := by
  unfold pool
  split
  · refine preferring_congr fun candidate member => ?_
    rw [matchesType, matchesType, same candidate (mem_of_mem_preferring member)]
  · rfl

/-! ### The choice -/

/-- What is chosen is one of the candidates that the file and the receiver leave. -/
theorem mem_pool_of_choose {choice : Choice}
    (chosen : entities.choose candidates site = some choice) :
    choice.entity ∈ entities.pool candidates site := by
  rw [choose_eq] at chosen
  obtain ⟨entity, isChosen, rfl⟩ := Option.map_eq_some_iff.mp chosen
  split at isChosen
  · exact mem_of_leastBy? isChosen
  · exact List.mem_of_head? isChosen

theorem remaining_of_choose {choice : Choice}
    (chosen : entities.choose candidates site = some choice) :
    choice.remaining = (entities.pool candidates site).length := by
  rw [choose_eq] at chosen
  obtain ⟨entity, -, rfl⟩ := Option.map_eq_some_iff.mp chosen
  rfl

/-- What is chosen is one of the candidates. -/
theorem mem_of_choose {choice : Choice} (chosen : entities.choose candidates site = some choice) :
    choice.entity ∈ candidates :=
  mem_of_mem_pool (mem_pool_of_choose chosen)

/-- Where there are candidates, one of them is chosen. -/
theorem exists_choose (inhabited : candidates ≠ []) :
    ∃ choice, entities.choose candidates site = some choice := by
  have inhabitedPool : entities.pool candidates site ≠ [] := pool_ne_nil inhabited
  rw [choose_eq]
  split
  · obtain ⟨least, isLeast⟩ :=
      @exists_leastBy? _ (compareDistance site.line) _ inhabitedPool
    exact ⟨_, congrArg (Option.map _) isLeast⟩
  · exact ⟨_, congrArg (Option.map _) (List.head?_eq_some_head inhabitedPool)⟩

/-- Of the entities that are no candidates only those count that hold one. -/
theorem choose_congr
    (same : ∀ candidate ∈ candidates, entities.parent? candidate = others.parent? candidate) :
    entities.choose candidates site = others.choose candidates site := by
  rw [choose_eq, choose_eq, pool_congr same]

/-- Where candidates stand in the file of the reference, the others do not count. -/
theorem choose_filter_of_mem {entity : Entity} (member : entity ∈ candidates)
    (isLocal : entity.fileId = site.fileId) :
    entities.choose (candidates.filter (·.fileId == site.fileId)) site =
      entities.choose candidates site := by
  have accepted : entity.fileId == site.fileId := beq_iff_eq.mpr isLocal
  have inLocal : entity ∈ candidates.filter (·.fileId == site.fileId) :=
    List.mem_filter.mpr ⟨member, accepted⟩
  have sameNear :
      near (candidates.filter (·.fileId == site.fileId)) site = near candidates site := by
    rw [near, near, preferring_eq_filter inLocal accepted, preferring_eq_filter member accepted,
      List.filter_filter]
    exact List.filter_congr fun _ _ => Bool.and_self _
  have samePool : entities.pool (candidates.filter (·.fileId == site.fileId)) site =
      entities.pool candidates site := by
    rw [pool, pool, sameNear]
  rw [choose_eq, choose_eq, samePool, if_pos (List.any_eq_true.mpr ⟨entity, inLocal, accepted⟩),
    if_pos (List.any_eq_true.mpr ⟨entity, member, accepted⟩)]

end CodeGraph.EntityList
