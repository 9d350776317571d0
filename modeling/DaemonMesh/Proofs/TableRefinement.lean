import DaemonMesh.Proofs.CallRuns
import DaemonMesh.Proofs.FlatEntries
import DaemonMesh.Proofs.LossSteps
import DaemonMesh.Proofs.ReferenceCounts

namespace DaemonMesh

/-- The operations on a table. -/
inductive RouteTable.Call
  | insertDirect (link : Link)
  | bind (session : SessionId) (link : Link)
  | unbind (session : SessionId)
  | removeLink (link : Link)

/-- What an operation on a table gives back. -/
inductive RouteTable.Answer
  | flag (changed : Bool)
  | unbound (link : Option Link)
  | removed (routes : RemovedRoutes)
deriving DecidableEq

def RouteTable.call (table : RouteTable) : Call → Answer × RouteTable
  | .insertDirect link =>
    let (added, next) := table.insertDirect link
    (.flag added, next)
  | .bind session link =>
    match table.bind? session link with
    | none => (.flag false, table)
    | some next => (.flag true, next)
  | .unbind session =>
    match table.unbind? session with
    | none => (.unbound none, table)
    | some (link, next) => (.unbound (some link), next)
  | .removeLink link =>
    let (removed, next) := table.removeLink link
    (.removed removed, next)

/-- The same operations on a list of entries. -/
def FlatTable.call (flat : FlatTable) : RouteTable.Call → RouteTable.Answer × FlatTable
  | .insertDirect link =>
    if flat.hasDirect link then (.flag false, flat) else (.flag true, flat.append .direct link)
  | .bind session link =>
    if flat.hasDirect link then (.flag true, flat.append session link) else (.flag false, flat)
  | .unbind session =>
    let (link, next) := flat.unbind session
    (.unbound link, next)
  | .removeLink link =>
    let (removed, next) := flat.removeLink link
    (.removed removed, next)

/-- Nobody binds or unbinds session 0. -/
def RouteTable.Call.Nonzero : Call → Prop
  | .bind session _ => session ≠ .direct
  | .unbind session => session ≠ .direct
  | _ => True

namespace RouteTable

variable {table : RouteTable} {flat : FlatTable} {session : SessionId} {link : Link}

/-- Every entry under its session, by ascending session. -/
def listed (table : RouteTable) : List (SessionId × Link) :=
  table.buckets.entries.flatMap fun bucket => bucket.2.map (Prod.mk bucket.1)

/-- The links of a table come in the order of its list, bucket after bucket. -/
theorem links_eq_listed (table : RouteTable) : table.links = table.listed.map Prod.snd := by
  unfold links listed
  rw [List.map_flatMap]
  exact List.flatMap_congr fun bucket _ => by simp

/-- Read off the list, the sessions bound to a link are those of its entries with that link and a
session of their own. -/
theorem bindingsTo_eq_listed (table : RouteTable) (link : Link) :
    table.bindingsTo link =
      (table.listed.filter fun entry => !entry.1.isDirect && entry.2 = link).map Prod.fst := by
  unfold bindingsTo listed
  rw [List.filter_flatMap, List.map_flatMap]
  refine List.flatMap_congr fun bucket _ => ?_
  rw [List.filter_map, List.map_map]
  cases direct : bucket.1.isDirect with
  | true => simp [Function.comp_def, direct]
  | false =>
    simp [Function.comp_def, direct, List.map_const', List.count_eq_length_filter, beq_eq_decide]

/-- The buckets are in ascending order of their sessions, and so the sessions bound to one link come
out sorted. -/
theorem bindingsTo_ascending (ascending : table.buckets.Ascending) (link : Link) :
    (table.bindingsTo link).Pairwise fun first second => ¬second < first := by
  unfold bindingsTo
  refine List.pairwise_flatMap.mpr ⟨fun bucket _ => ?_, ascending.imp fun {one other} below => ?_⟩
  · split
    · exact List.Pairwise.nil
    · exact List.pairwise_replicate.mpr (Or.inr (Std.Irrefl.irrefl _))
  · intro first inOne second inOther after
    have atOne : first = one.1 := by
      split at inOne
      · exact (List.not_mem_nil inOne).elim
      · exact List.eq_of_mem_replicate inOne
    have atOther : second = other.1 := by
      split at inOther
      · exact (List.not_mem_nil inOther).elim
      · exact List.eq_of_mem_replicate inOther
    subst atOne atOther
    exact Std.Irrefl.irrefl _ (IsTrans.trans _ _ _ below after)

/-- A table and the list of its entries in the order they came. -/
structure Flattens (table : RouteTable) (flat : FlatTable) : Prop where
  valid : table.Valid
  alike : ∀ session, table.candidates session = flat.candidates session

theorem flattens_empty : empty.Flattens .empty := ⟨valid_empty, fun _ => rfl⟩

theorem flattens_withDirect (link : Link) : (withDirect link).Flattens (.withDirect link) := by
  refine ⟨valid_withDirect link, fun session => ?_⟩
  rw [candidates_withDirect]
  unfold FlatTable.withDirect FlatTable.candidates
  by_cases zero : session = .direct <;> simp [zero, eq_comm]

theorem Flattens.hasDirect (flattens : table.Flattens flat) (link : Link) :
    table.hasDirect link = flat.hasDirect link := by
  rw [Bool.eq_iff_iff, hasDirect_iff, FlatTable.hasDirect_iff, ← flattens.alike]
  rfl

/-- An entry goes to the end of its bucket, as it goes to the end of the flat list. The other
buckets are not concerned. -/
theorem Flattens.append (flattens : table.Flattens flat)
    (valid : (table.append session link).Valid) :
    (table.append session link).Flattens (flat.append session link) := by
  refine ⟨valid, fun other => ?_⟩
  simp [flattens.alike]

/-- Both hold the same entries, only in another order. -/
theorem Flattens.listed_perm (flattens : table.Flattens flat) :
    table.listed.Perm flat.entries := by
  have byKey : table.listed =
      table.buckets.keys.flatMap fun session =>
        flat.entries.filter fun entry => entry.1 = session := by
    unfold listed OrderedMap.keys
    rw [List.flatMap_map]
    refine List.flatMap_congr fun bucket member => ?_
    have found := (mem_entries_iff flattens.valid.ascending).mp member
    have atKey := flattens.alike bucket.1
    unfold candidates at atKey
    rw [found] at atKey
    rw [← FlatTable.map_candidates, ← atKey]
    rfl
  rw [byKey]
  refine flatMap_filter_perm flattens.valid.ascending.keys_nodup fun entry member => ?_
  rw [flattens.valid.ascending.mem_keys_iff]
  have atKey : entry.2 ∈ table.candidates entry.1 := by
    rw [flattens.alike, FlatTable.mem_candidates_iff]
    exact member
  unfold candidates at atKey
  cases found : table.buckets.find? entry.1 with
  | none => simp [found] at atKey
  | some bucket => rfl

/-- The table lists these sessions by its buckets and the flat list sorts them. As both are sorted
and have the same members, they are the same list. -/
theorem Flattens.bindingsTo (flattens : table.Flattens flat) (link : Link) :
    table.bindingsTo link = flat.bindingsTo link := by
  refine SessionId.eq_of_ascending (bindingsTo_ascending flattens.valid.ascending link)
    (SessionId.sort_ascending _) ?_
  rw [bindingsTo_eq_listed]
  exact ((flattens.listed_perm.filter _).map _).trans (SessionId.sort_perm _).symm

/-- What a removal tells its caller: how many entries there were and which sessions they belonged
to. -/
theorem Flattens.removed (flattens : table.Flattens flat) (link : Link) :
    (table.removeLink link).1 = (flat.removeLink link).1 := by
  have direct : table.directLinks.count link = flat.entries.count (.direct, link) := by
    rw [← FlatTable.count_candidates, ← flattens.alike]
    rfl
  unfold removeLink FlatTable.removeLink
  rw [direct, flattens.bindingsTo]

theorem Flattens.removeLink (flattens : table.Flattens flat) (link : Link) :
    (table.removeLink link).2.Flattens (flat.removeLink link).2 := by
  refine ⟨flattens.valid.removeLink link, fun session => ?_⟩
  rw [candidates_removeLink flattens.valid.ascending, FlatTable.candidates_removeLink,
    flattens.alike]

/-- Only the oldest entry of a session goes, on either side, and the link freed is the one it had.
-/
theorem Flattens.unbind (flattens : table.Flattens flat) (nonzero : session ≠ .direct) :
    (table.call (.unbind session)).1 = (flat.call (.unbind session)).1 ∧
      (table.call (.unbind session)).2.Flattens (flat.call (.unbind session)).2 := by
  have left := flat.candidates_unbind session
  have first : (flat.unbind session).1 = (table.candidates session).head? := by
    rw [flattens.alike]
    exact congrArg Prod.fst (flat.firstBound_eq session)
  cases found : table.unbind? session with
  | none =>
    have none : table.candidates session = [] := by
      unfold unbind? at found
      split at found <;> simp_all
    rw [none] at first
    refine ⟨?_, ?_, fun other => ?_⟩
    · simp only [call, found, FlatTable.call, first, List.head?_nil]
    · simpa only [call, found] using flattens.valid
    · simp only [call, found, FlatTable.call, left, flattens.alike other]
      split
      · next same =>
        subst same
        rw [← flattens.alike, none, List.tail_nil]
      · rfl
  | some taken =>
    obtain ⟨link, next⟩ := taken
    obtain ⟨atSession, elsewhere⟩ := candidates_of_unbind? found
    rw [atSession] at first
    refine ⟨?_, ?_, fun other => ?_⟩
    · simp only [call, found, FlatTable.call, first, List.head?_cons]
    · simpa only [call, found] using flattens.valid.unbind nonzero found
    · simp only [call, found, FlatTable.call, left]
      split
      · next same =>
        subst same
        rw [← flattens.alike, atSession, List.tail_cons]
      · next different => rw [elsewhere other different, flattens.alike]

/-- A direct path is added once. On either side this is decided by whether there is one already. -/
theorem Flattens.insertDirect (flattens : table.Flattens flat) (link : Link) :
    (table.call (.insertDirect link)).1 = (flat.call (.insertDirect link)).1 ∧
      (table.call (.insertDirect link)).2.Flattens (flat.call (.insertDirect link)).2 := by
  have valid := flattens.valid.insertDirect link
  have same := flattens.hasDirect link
  unfold RouteTable.insertDirect at valid
  cases direct : table.hasDirect link with
  | true =>
    simp only [call, RouteTable.insertDirect, FlatTable.call, ← same, direct, if_true]
    exact ⟨trivial, flattens⟩
  | false =>
    simp only [call, RouteTable.insertDirect, FlatTable.call, ← same, direct, Bool.false_eq_true,
      if_false] at valid ⊢
    exact ⟨trivial, flattens.append valid⟩

/-- Binding asks for the direct path first. A duplicate is then appended like any other entry, since
bindings are counted. -/
theorem Flattens.bind (flattens : table.Flattens flat) (nonzero : session ≠ .direct) (link : Link) :
    (table.call (.bind session link)).1 = (flat.call (.bind session link)).1 ∧
      (table.call (.bind session link)).2.Flattens (flat.call (.bind session link)).2 := by
  have same := flattens.hasDirect link
  cases direct : table.hasDirect link with
  | true =>
    have valid := flattens.valid.append (fun zero => (nonzero zero).elim) fun _ =>
      hasDirect_iff.mp direct
    simp only [call, bind?, FlatTable.call, ← same, direct, if_true]
    exact ⟨trivial, flattens.append valid⟩
  | false =>
    simp only [call, bind?, FlatTable.call, ← same, direct, Bool.false_eq_true, if_false]
    exact ⟨trivial, flattens⟩

/-- Every operation gives the same back on a table and on its list of entries, and leaves the table
with its list again. -/
theorem Flattens.call (flattens : table.Flattens flat) {operation : Call}
    (nonzero : operation.Nonzero) :
    (table.call operation).1 = (flat.call operation).1 ∧
      (table.call operation).2.Flattens (flat.call operation).2 := by
  cases operation with
  | insertDirect link => exact flattens.insertDirect link
  | bind session link => exact flattens.bind nonzero link
  | unbind session => exact flattens.unbind nonzero
  | removeLink link =>
    exact ⟨congrArg Answer.removed (flattens.removed link), flattens.removeLink link⟩

/-- A table and a list of entries that answer every question alike. -/
structure Agrees (table : RouteTable) (flat : FlatTable) : Prop where
  candidates : ∀ session, table.candidates session = flat.candidates session
  firstBound : ∀ session, table.firstBound session = flat.firstBound session
  directLinks : table.directLinks = flat.candidates .direct
  hasDirect : ∀ link, table.hasDirect link = flat.hasDirect link
  size : table.size = flat.entries.length
  isEmpty : table.isEmpty = flat.entries.isEmpty
  hasSessionRoutes : table.hasSessionRoutes = flat.entries.any fun entry => !entry.1.isDirect
  reaches : ∀ guid, table.reaches guid = flat.entries.any fun entry => entry.2.guid == guid
  canRouteWithout : ∀ guid,
    table.canRouteWithout guid = flat.entries.any fun entry => entry.2.guid != guid
  sessionsOf : ∀ link, table.sessionsOf link = (flat.bindingsTo link).dedup
  hasLinkNamed : ∀ names,
    table.hasLinkNamed names = flat.entries.any fun entry => names.contains entry.2.name
  filled : ∀ session, table.buckets.find? session ≠ some []
  once : ∀ link, flat.entries.count (.direct, link) ≤ 1
  total : ∀ link,
    (table.removeLink link).1.total + (table.removeLink link).2.size = table.size

theorem Flattens.any_links (flattens : table.Flattens flat) (holds : Link → Bool) :
    table.links.any holds = flat.entries.any fun entry => holds entry.2 := by
  rw [links_eq_listed, List.any_map]
  exact flattens.listed_perm.any_eq

/-- The sum over the buckets is the length of the list, each entry being in one bucket. -/
theorem Flattens.size (flattens : table.Flattens flat) : table.size = flat.entries.length := by
  unfold RouteTable.size
  rw [links_eq_listed, List.length_map]
  exact flattens.listed_perm.length_eq

theorem Flattens.isEmpty (flattens : table.Flattens flat) :
    table.isEmpty = flat.entries.isEmpty := by
  have pathless : table.directLinks = [] ↔ table.links = [] := by
    rw [List.eq_nil_iff_forall_not_mem, List.eq_nil_iff_forall_not_mem]
    exact forall_congr' fun link => not_congr flattens.valid.mem_links_iff.symm
  have size := flattens.size
  unfold RouteTable.size at size
  rw [Bool.eq_iff_iff, flattens.valid.isEmpty_iff, pathless, List.isEmpty_iff,
    ← List.length_eq_zero_iff, size, List.length_eq_zero_iff]

theorem Flattens.hasSessionRoutes (flattens : table.Flattens flat) :
    table.hasSessionRoutes = flat.entries.any fun entry => !entry.1.isDirect := by
  have held (link : Link) : link ∈ table.sessionLinks ↔
      ∃ session, session ≠ .direct ∧ (session, link) ∈ flat.entries := by
    simp only [mem_sessionLinks_iff flattens.valid.ascending, flattens.alike,
      FlatTable.mem_candidates_iff]
  rw [Bool.eq_iff_iff, flattens.valid.hasSessionRoutes_iff]
  simp only [List.any_eq_true, Bool.not_eq_true', SessionId.not_isDirect_iff]
  constructor
  · intro some
    obtain ⟨link, member⟩ := List.exists_mem_of_ne_nil _ some
    obtain ⟨session, bound, entry⟩ := (held link).mp member
    exact ⟨(session, link), entry, bound⟩
  · rintro ⟨⟨session, link⟩, entry, bound⟩
    exact List.ne_nil_of_mem ((held link).mpr ⟨session, bound, entry⟩)

/-- Without repetitions, the sessions bound to a link are those that its removal reports. -/
theorem Flattens.sessionsOf (flattens : table.Flattens flat) (link : Link) :
    table.sessionsOf link = (flat.bindingsTo link).dedup := by
  have ascending := sessionsOf_ascending flattens.valid.ascending link
  have distinct : (table.sessionsOf link).Nodup := ascending.imp fun {one other} below equal => by
    subst equal
    exact Std.Irrefl.irrefl _ below
  refine SessionId.eq_of_ascending (ascending.imp fun below above =>
      Std.Irrefl.irrefl _ (IsTrans.trans _ _ _ below above))
    ((SessionId.sort_ascending _).sublist (List.dedup_sublist _)) ?_
  refine (List.perm_ext_iff_of_nodup distinct (List.nodup_dedup _)).mpr fun session => ?_
  rw [mem_sessionsOf_iff flattens.valid.ascending, List.mem_dedup, FlatTable.mem_bindingsTo_iff,
    flattens.alike]

theorem Flattens.agrees (flattens : table.Flattens flat) : table.Agrees flat where
  candidates := flattens.alike
  firstBound session := by rw [flat.firstBound_eq, ← flattens.alike]; rfl
  directLinks := flattens.alike .direct
  hasDirect := flattens.hasDirect
  size := flattens.size
  isEmpty := flattens.isEmpty
  hasSessionRoutes := flattens.hasSessionRoutes
  reaches guid := flattens.any_links fun link => link.guid == guid
  canRouteWithout guid := flattens.any_links fun link => link.guid != guid
  sessionsOf := flattens.sessionsOf
  hasLinkNamed names := by
    rw [← flattens.any_links fun link => names.contains link.name, Bool.eq_iff_iff]
    simp only [hasLinkNamed, List.any_eq_true, beq_iff_eq, List.contains_iff_mem]
    constructor
    · rintro ⟨name, listed, link, member, rfl⟩
      exact ⟨link, member, listed⟩
    · rintro ⟨link, member, listed⟩
      exact ⟨link.name, listed, link, member, rfl⟩
  filled session found :=
    flattens.valid.filled (session, []) ((mem_entries_iff flattens.valid.ascending).mpr found) rfl
  once link := by
    rw [← FlatTable.count_candidates, ← flattens.alike]
    exact List.nodup_iff_count_le_one.mp flattens.valid.distinct link
  total link := by
    rw [flattens.removed, (flattens.removeLink link).size, flattens.size]
    exact flat.total_removeLink link

/-- A table that starts empty or with a single direct path is its list of entries after any
operations: each of them gives the same back, and so does every question in the end. -/
theorem table_refines_entries (first : Option Link) (calls : List Call)
    (nonzero : ∀ call ∈ calls, call.Nonzero) :
    (runCalls call (first.elim empty withDirect) calls).1 =
        (runCalls FlatTable.call (first.elim .empty .withDirect) calls).1 ∧
      (runCalls call (first.elim empty withDirect) calls).2.Agrees
        (runCalls FlatTable.call (first.elim .empty .withDirect) calls).2 := by
  have start : (first.elim empty withDirect).Flattens (first.elim .empty .withDirect) := by
    cases first with
    | none => exact flattens_empty
    | some link => exact flattens_withDirect link
  have square (table : RouteTable) (flat : FlatTable) (operation : Call)
      (allowed : operation.Nonzero) (flattens : table.Flattens flat) := flattens.call allowed
  obtain ⟨answers, last⟩ := runCalls_agree square nonzero start
  exact ⟨answers, last.agrees⟩

open Mesh (sampleLink spareLink)

/-- Sessions bound out of order, one of them to two parallel links. -/
def parallelCalls : List Call :=
  [.insertDirect spareLink, .bind ⟨7⟩ spareLink, .bind ⟨7⟩ sampleLink, .bind ⟨3⟩ spareLink,
    .bind ⟨7⟩ spareLink, .unbind ⟨7⟩, .removeLink spareLink]

theorem table_refines_entries_parallel :
    (∀ call ∈ parallelCalls, call.Nonzero) ∧
      (runCalls call (withDirect sampleLink) parallelCalls).1 =
        [.flag true, .flag true, .flag true, .flag true, .flag true, .unbound (some spareLink),
          .removed ⟨1, [⟨3⟩, ⟨7⟩]⟩] ∧
      (runCalls call (withDirect sampleLink) parallelCalls).2.Agrees
        ⟨[(.direct, sampleLink), (⟨7⟩, sampleLink)]⟩ := by
  have nonzero : ∀ call ∈ parallelCalls, call.Nonzero := by
    simp [parallelCalls, Call.Nonzero, SessionId.direct]
  obtain ⟨answers, last⟩ := table_refines_entries (some sampleLink) parallelCalls nonzero
  have left : (runCalls FlatTable.call (.withDirect sampleLink) parallelCalls).2.entries =
      [(.direct, sampleLink), (⟨7⟩, sampleLink)] := by decide
  exact ⟨nonzero, answers.trans (by decide), left ▸ last⟩

end RouteTable

end DaemonMesh
