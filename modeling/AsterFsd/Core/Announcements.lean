import AsterFsd.Core.Registry
import AsterFsd.Lib.Replica

/-! # Presence announcements

Every active session can keep the list of the other callsigns by the announcements it receives, taken
in the order in which the core commits: it starts with the callsigns that are active when it logs in,
and from then on each announcement reports exactly one difference.
-/

namespace AsterFsd

open Network

/-! ## What a session is told -/

/-- The announcement in an event. -/
def Event.notice : Event → Option (Notice Callsign)
  | .clientAdded client => some (.joined client.callsign)
  | .clientRemoved callsign _ _ => some (.left callsign)
  | _ => none

/-- The announcements delivered to `r`, once for each time a delivery names it. -/
def noticesTo (r : ConnectionId) (deliveries : List Delivery) : List (Notice Callsign) :=
  deliveries.flatMap fun delivery =>
    (delivery.recipients.filter (· = r)).filterMap fun _ => delivery.event.notice

/-- The callsigns in use by sessions other than `r`. -/
def NetworkState.others (state : NetworkState) (r : ConnectionId) : Set Callsign :=
  {k | ∃ i, state.callsigns.lookup k = some i ∧ i ≠ r}

def NetworkState.isActive (state : NetworkState) (r : ConnectionId) : Bool :=
  (state.sessions.lookup r).any (·.phase = .active)

/-- How the view of `r` moves with a step. An active session follows the announcements that the step
    commits; otherwise the view is set afresh, so that the step that logs `r` in leaves it with the
    callsigns then in use. -/
def viewStep (config : CoreConfig) (r : ConnectionId) (w : World) (action : Action) (w' : World)
    (view : Set Callsign) : Set Callsign :=
  if w.state.isActive r then
    Notice.follow view (noticesTo r (w.committed config action).deliveries)
  else w'.state.others r

/-- The view of `r` over a run. -/
def viewAlong (config : CoreConfig) (r : ConnectionId) :
    World → Set Callsign → List Action → Set Callsign :=
  (machine config).foldAlong (viewStep config r)

variable {config : CoreConfig} {w w' : World} {action : Action} {r c : ConnectionId}
  {state : NetworkState} {maxClients : Nat}

/-! ## Recipients -/

theorem mem_activeIds (consistent : state.Consistent maxClients) {exclude : Option ConnectionId} :
    r ∈ activeIds state exclude ↔ state.isActive r = true ∧ some r ≠ exclude := by
  unfold activeIds NetworkState.isActive
  rw [KeyedMap.mem_selected consistent.own]
  constructor
  · rintro ⟨session, found, selected⟩
    simp only [decide_eq_true_eq] at selected
    obtain rfl := consistent.own r session found
    exact ⟨by simp [found, selected.1], selected.2⟩
  · rintro ⟨active, other⟩
    obtain ⟨session, found, phase⟩ := (Option.any_eq_true _ _).mp active
    refine ⟨session, found, ?_⟩
    rw [consistent.own r session found]
    simpa using And.intro (by simpa using phase) other

theorem nodup_activeIds (consistent : state.Consistent maxClients)
    (exclude : Option ConnectionId) : (activeIds state exclude).Nodup :=
  KeyedMap.nodup_selected consistent.own _

private theorem notice_of_unannounced {event : Event} (unannounced : event.announces = false) :
    event.notice = none := by
  cases event <;> first | rfl | cases unannounced

theorem noticesTo_filter (r : ConnectionId) (deliveries : List Delivery) :
    noticesTo r (deliveries.filter (·.event.announces)) = noticesTo r deliveries := by
  induction deliveries with
  | nil => rfl
  | cons delivery rest ih =>
      cases announces : delivery.event.announces with
      | true => simpa [noticesTo, List.filter_cons, announces] using ih
      | false =>
          have silent := notice_of_unannounced announces
          simpa [noticesTo, List.filter_cons, announces, silent] using ih

/-- One delivery to distinct recipients tells each of them once. -/
theorem noticesTo_single {recipients : List ConnectionId} {event : Event} {notice : Notice Callsign}
    (nodup : recipients.Nodup) (announcement : event.notice = some notice) :
    noticesTo r [⟨recipients, event⟩] = if r ∈ recipients then [notice] else [] := by
  have once : recipients.filter (· = r) = if r ∈ recipients then [r] else [] := by
    rw [show (fun x => decide (x = r)) = (fun x => x == r) from rfl, List.filter_beq]
    split
    · rename_i member
      rw [List.count_eq_one_of_mem nodup member]
      rfl
    · rename_i absent
      rw [List.count_eq_zero_of_not_mem absent]
      rfl
  unfold noticesTo
  rw [List.flatMap_singleton, once]
  split <;> simp [announcement]

/-! ## One change -/

theorem isActive_iff : state.isActive r = true ↔
    ∃ session, state.sessions.lookup r = some session ∧ session.phase = .active := by
  simp [NetworkState.isActive, Option.any_eq_true]

/-- What the announcements of a change do to the view of `r`. -/
private def Follows (r : ConnectionId) (state state' : NetworkState)
    (deliveries : List Delivery) : Prop :=
  Notice.Exact (state.others r) (noticesTo r deliveries) ∧
    Notice.follow (state.others r) (noticesTo r deliveries) = state'.others r

private theorem Follows.quiet {state state' : NetworkState} {deliveries : List Delivery}
    (silent : noticesTo r deliveries = []) (same : state.others r = state'.others r) :
    Follows r state state' deliveries := by
  unfold Follows
  rw [silent]
  exact ⟨trivial, same⟩

private theorem Follows.notice {state state' : NetworkState} {deliveries : List Delivery}
    {notice : Notice Callsign} (told : noticesTo r deliveries = [notice])
    (fits : notice.Fits (state.others r))
    (moved : notice.apply (state.others r) = state'.others r) :
    Follows r state state' deliveries := by
  unfold Follows
  rw [told]
  exact ⟨⟨fits, trivial⟩, moved⟩

private theorem follows_activate {presence : ClientPresence}
    (consistent : state.Consistent config.maxClients) (active : state.isActive r = true)
    (allowed : (Change.activate c presence).Allowed config state) :
    Follows r state ((Change.activate c presence).apply state)
      ((Change.activate c presence).announced state) := by
  obtain ⟨unused, session, found, waiting⟩ := id allowed
  obtain ⟨own, stored, phase⟩ := isActive_iff.mp active
  have other : r ≠ c := by
    rintro rfl
    obtain rfl : own = session := Option.some.inj (stored.symm.trans found)
    simp [phase] at waiting
  have free : state.callsigns.lookup presence.callsign = none := AList.lookup_eq_none.mpr unused
  have stays : ((Change.activate c presence).apply state).isActive r = true :=
    isActive_iff.mpr ⟨own, (Change.lookup_apply_ne (by simpa [Change.subject] using other.symm)).trans
      stored, phase⟩
  have consistent' := Change.consistent_apply consistent allowed
  have peer : r ∈ activeIds ((Change.activate c presence).apply state) (some c) :=
    (mem_activeIds consistent').mpr ⟨stays, by simpa using other⟩
  have told : noticesTo r ((Change.activate c presence).announced state) =
      [.joined presence.callsign] := by
    simp only [Change.announced]
    rw [if_neg (by simpa using List.ne_nil_of_mem peer),
      noticesTo_single (nodup_activeIds consistent' _) rfl, if_pos peer]
  refine Follows.notice told ?_ ?_
  · rintro ⟨i, listed, -⟩
    simp [free] at listed
  · ext k
    simp only [Notice.apply, NetworkState.others, Change.apply, Set.mem_insert_iff, Set.mem_ofPred_eq]
    by_cases new : k = presence.callsign
    · subst new
      simpa using other.symm
    · simp [new, AList.lookup_insert_ne new]

private theorem follows_remove (consistent : state.Consistent config.maxClients)
    (active : state.isActive r = true)
    (allowed : (Change.remove c).Allowed config state) :
    Follows r state ((Change.remove c).apply state) ((Change.remove c).announced state) := by
  obtain ⟨session, found⟩ := id allowed
  have consistent' := Change.consistent_apply consistent allowed
  cases present : session.presence with
  | none =>
      refine Follows.quiet ?_ ?_
      · simp [Change.announced, found, present, noticesTo]
      · simp only [NetworkState.others, Change.apply, Change.removed_of_absent found present]
  | some presence =>
      have listed : state.callsigns.lookup presence.callsign = some c :=
        (consistent.index _ c).mpr ⟨session, found, by simp [Session.callsign, present]⟩
      have after : (Change.remove c).apply state = state.without c presence.callsign :=
        Change.removed_of_present found present
      have announced : (Change.remove c).announced state =
          let peers := activeIds ((Change.remove c).apply state) none
          if peers.isEmpty then []
          else [⟨peers,
            .clientRemoved presence.callsign presence.clientType presence.networkId⟩] := by
        simp [Change.announced, found, present]
      have same : ∀ k, k ≠ presence.callsign → (state.without c presence.callsign).callsigns.lookup k =
          state.callsigns.lookup k := fun k other => AList.lookup_erase_ne other
      by_cases own : r = c
      · subst own
        -- The removed session is among nobody's peers, and its own callsign is not in its view.
        have gone : r ∉ activeIds ((Change.remove r).apply state) none := by
          rw [mem_activeIds consistent', isActive_iff, after]
          simp [NetworkState.without]
        refine Follows.quiet ?_ ?_
        · rw [announced]
          dsimp only
          split
          · rfl
          · rw [noticesTo_single (nodup_activeIds consistent' _) rfl, if_neg gone]
        · rw [after]
          ext k
          simp only [NetworkState.others, Set.mem_ofPred_eq]
          by_cases taken : k = presence.callsign
          · subst taken
            simp [NetworkState.without, listed]
          · rw [same k taken]
      · have peer : r ∈ activeIds ((Change.remove c).apply state) none := by
          obtain ⟨session', stored, phase⟩ := isActive_iff.mp active
          rw [mem_activeIds consistent', isActive_iff]
          refine ⟨⟨session', ?_, phase⟩, by simp⟩
          rw [Change.lookup_apply_ne (by simpa [Change.subject] using Ne.symm own), stored]
        have told : noticesTo r ((Change.remove c).announced state) =
            [.left presence.callsign] := by
          rw [announced]
          dsimp only
          rw [if_neg (by simpa using List.ne_nil_of_mem peer),
            noticesTo_single (nodup_activeIds consistent' _) rfl, if_pos peer]
        refine Follows.notice told ⟨c, listed, Ne.symm own⟩ ?_
        rw [after]
        ext k
        simp only [Notice.apply, NetworkState.others, Set.mem_sdiff, Set.mem_singleton_iff,
          Set.mem_ofPred_eq]
        by_cases taken : k = presence.callsign
        · subst taken
          simp [NetworkState.without]
        · simp [taken, same k taken]

/-- The announcements of a change report exactly the differences it makes to the callsigns of the
    others, to every session that is active before it. -/
private theorem follows_change {change : Change} (consistent : state.Consistent config.maxClients)
    (active : state.isActive r = true) (allowed : change.Allowed config state) :
    Follows r state (change.apply state) (change.announced state) := by
  cases change with
  | keep | connect | identify | move | file => exact Follows.quiet rfl rfl
  | activate c presence => exact follows_activate consistent active allowed
  | remove c => exact follows_remove consistent active allowed

/-- The announcements of a step, likewise. -/
theorem step_follows (reach : (machine config).Reachable w)
    (step : w.step config action = some w') (active : w.state.isActive r = true) :
    Notice.Exact (w.state.others r) (noticesTo r (w.committed config action).deliveries) ∧
      Notice.follow (w.state.others r) (noticesTo r (w.committed config action).deliveries) =
        w'.state.others r := by
  obtain ⟨change, made, -⟩ := World.step_makes step
  have follows := follows_change (reachable_consistent reach) active made.allowed
  rw [← made.announced, ← made.apply_eq] at follows
  unfold Follows Effects.announcements at follows
  rwa [noticesTo_filter] at follows

/-- A session stays active as long as it exists. -/
theorem step_active (step : w.step config action = some w') (active : w.state.isActive r = true) :
    w'.state.isActive r = true ∨ w'.state.sessions.lookup r = none := by
  obtain ⟨own, stored, phase⟩ := isActive_iff.mp active
  obtain ⟨change, made, -⟩ := World.step_makes step
  rw [made.apply_eq]
  cases found : (change.apply w.state).sessions.lookup r with
  | none => exact .inr rfl
  | some session =>
      refine .inl (isActive_iff.mpr ⟨session, found, ?_⟩)
      obtain ⟨before, stored', same⟩ | ⟨connects, -⟩ := Change.lookup_apply found
      · obtain rfl : own = before := Option.some.inj (stored.symm.trans stored')
        obtain rfl | ⟨subject, rfl⟩ := same
        · exact phase
        · cases change with
          | identify c command =>
              obtain rfl := Option.some.inj subject
              obtain ⟨waiting, stored'', connected⟩ := made.allowed
              obtain rfl := Option.some.inj (stored.symm.trans stored'')
              cases phase.symm.trans connected
          | activate => rfl
          | _ => exact phase
      · cases change with
        | connect c peer dialect =>
            obtain rfl := Option.some.inj connects
            exact absurd (KeyedMap.mem_of_lookup stored) made.allowed.1
        | _ => cases connects

private theorem active_before {change : Change} (consistent : state.Consistent config.maxClients)
    (allowed : change.Allowed config state) {exclude : Option ConnectionId}
    (told : r ∈ activeIds (change.apply state) exclude)
    (others : ∀ c presence, change = .activate c presence → exclude = some c)
    (announces : change.announced state ≠ []) : state.isActive r = true := by
  obtain ⟨active, other⟩ := (mem_activeIds (Change.consistent_apply consistent allowed)).mp told
  obtain ⟨session, found, phase⟩ := isActive_iff.mp active
  obtain ⟨before, stored, rfl | ⟨subject, same⟩⟩ | ⟨connects, -⟩ := Change.lookup_apply found
  · exact isActive_iff.mpr ⟨_, stored, phase⟩
  · cases change with
    | activate c presence =>
        obtain rfl := Option.some.inj subject
        exact absurd (others _ _ rfl).symm other
    | remove c =>
        obtain rfl : session = before := same
        exact isActive_iff.mpr ⟨_, stored, phase⟩
    | _ => exact absurd rfl announces
  · cases change with
    | connect => exact absurd rfl announces
    | _ => cases connects

/-- Only sessions that were active before the step are told its announcements. -/
theorem step_told (reach : (machine config).Reachable w) (step : w.step config action = some w')
    (told : noticesTo r (w.committed config action).deliveries ≠ []) :
    w.state.isActive r = true := by
  obtain ⟨change, made, -⟩ := World.step_makes step
  have consistent := reachable_consistent reach
  rw [← noticesTo_filter] at told
  change noticesTo r (w.committed config action).announcements ≠ [] at told
  rw [made.announced] at told
  have named : ∃ delivery ∈ change.announced w.state, r ∈ delivery.recipients := by
    by_contra none_
    refine told (List.flatMap_eq_nil_iff.mpr fun delivery member => ?_)
    have absent : delivery.recipients.filter (· = r) = [] := by
      refine List.filter_eq_nil_iff.mpr fun i named => ?_
      rw [decide_eq_true_eq]
      rintro rfl
      exact none_ ⟨delivery, member, named⟩
    rw [absent]
    rfl
  obtain ⟨delivery, member, named⟩ := named
  have announces := List.ne_nil_of_mem member
  cases change with
  | activate c presence =>
      simp only [Change.announced] at member
      split at member
      · cases member
      · obtain rfl := List.mem_singleton.mp member
        exact active_before consistent made.allowed named
          (fun _ _ same => by cases same; rfl) announces
  | remove c =>
      simp only [Change.announced] at member
      split at member
      · cases member
      · split at member
        · cases member
        · obtain rfl := List.mem_singleton.mp member
          exact active_before consistent made.allowed named (fun _ _ same => by cases same) announces
  | _ => exact absurd rfl announces

/-- The others' callsigns are those in the index but one's own. -/
theorem others_eq (consistent : state.Consistent maxClients) {session : Session}
    {presence : ClientPresence} (active : state.ActiveAs r session presence) :
    state.others r = {k | k ∈ state.callsigns} \ {presence.callsign} := by
  ext k
  simp only [NetworkState.others, Set.mem_sdiff, Set.mem_ofPred_eq, Set.mem_singleton_iff]
  constructor
  · rintro ⟨i, listed, other⟩
    refine ⟨KeyedMap.mem_of_lookup listed, ?_⟩
    rintro rfl
    exact other (Option.some.inj (listed.symm.trans (consistent.lookup_callsign active)))
  · rintro ⟨member, other⟩
    obtain ⟨i, listed⟩ := KeyedMap.exists_lookup member
    refine ⟨i, listed, ?_⟩
    rintro rfl
    obtain ⟨session', presence', active', rfl⟩ := consistent.active_of_lookup listed
    obtain rfl := Option.some.inj (active.1.symm.trans active'.1)
    obtain rfl := Option.some.inj (active.2.2.symm.trans active'.2.2)
    exact other rfl

/-! ## Runs -/

/-- The view of an active session is the set of the others' callsigns. -/
theorem view_others {as : List Action} (trace : (machine config).Trace as w)
    (active : w.state.isActive r = true) :
    viewAlong config r {} ∅ as = w.state.others r := by
  refine trace.invariant
    (fun as w => w.state.isActive r = true → viewAlong config r {} ∅ as = w.state.others r)
    (fun _ => by simp [viewAlong, Machine.foldAlong, machine, NetworkState.others]) ?_ active
  intro as w action w' trace held step active
  have along : viewAlong config r {} ∅ (as ++ [action]) =
      viewStep config r w action w' (viewAlong config r {} ∅ as) :=
    Machine.foldAlong_concat trace step
  rw [along, viewStep]
  split
  · rename_i before
    rw [held before]
    exact (step_follows trace.reachable step before).2
  · rfl

/-- In every run, the view of every active session equals the callsigns in the index without its own,
    and every announcement that the next step delivers to it reports a real difference: a client that
    is added is absent from the view, one that is removed is in it. -/
theorem announcements_exact (config : CoreConfig) (as : List Action) (w : World)
    (trace : (machine config).Trace as w) (r : ConnectionId) (session : Session)
    (presence : ClientPresence) (active : w.state.ActiveAs r session presence) :
    viewAlong config r {} ∅ as = {k | k ∈ w.state.callsigns} \ {presence.callsign} ∧
      ∀ action w', w.step config action = some w' →
        Notice.Exact (viewAlong config r {} ∅ as)
          (noticesTo r (w.committed config action).deliveries) := by
  have isActive : w.state.isActive r = true := isActive_iff.mpr ⟨session, active.1, active.2.1⟩
  rw [view_others trace isActive]
  exact ⟨others_eq (reachable_consistent trace.reachable) active,
    fun action w' step => (step_follows trace.reachable step isActive).1⟩

/-- The pilot who logged in first has learnt of the second. -/
theorem announcements_exact_twoPilots :
    ∃ w, (machine Sample.config).Trace Sample.twoPilots w ∧
      Sample.otherCallsign ∈ viewAlong Sample.config ⟨1⟩ {} ∅ Sample.twoPilots := by
  have trace := (machine Sample.config).trace_final Sample.twoPilots (by decide)
  have found := (Option.some_get (x := ((machine Sample.config).final Sample.twoPilots
    (by decide)).state.sessions.lookup ⟨1⟩) (by decide)).symm
  have view := (announcements_exact Sample.config _ _ trace ⟨1⟩ _
    (loginPresence { Sample.login with requestedRating := 15 } Sample.captain)
    ⟨found, by decide, by decide⟩).1
  have listed : Sample.otherCallsign ∈ ((machine Sample.config).final Sample.twoPilots
    (by decide)).state.callsigns := by decide
  have other : Sample.otherCallsign ≠ Sample.callsign := by decide
  exact ⟨_, trace, by rw [view]; exact ⟨listed, other⟩⟩

end AsterFsd
