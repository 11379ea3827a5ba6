import InstanceIdentity.Proofs.Collection.Spacing

/-!
# Collectors that share a store

Any number of collectors may work on one store in memory.  Each of them remembers a token of its own,
and they take turns in any order, each turn at a reading of the clock of its own.  What one of them
has remembered for long may be older than what the store holds; but nobody asks for a token while the
stored one is valid, and nothing is stored but what the service issues.  So the store only moves
forward, and holds back every collector for the lifetime of what it holds.

Main results:

- Theorem `Backed.cell_eq`: a store in memory holds what was saved last.
- Theorem `shared_requests_spaced`: requests for tokens are a lifetime apart, whoever sends them, and
  the tokens that the store holds are created one after the other.
-/

namespace InstanceIdentity.Collection

open Http (Request Answer Response Transport Script)

/-! ## Groups -/

/-- Collectors on one store, each with the token that it remembers. -/
structure Group (ι σ : Type) where
  store : σ
  sessions : ι → Option SessionToken

/-- A visit to one of the collectors, which works over a transport meanwhile. -/
structure Turn (ι τ : Type) where
  who : ι
  transport : τ
  visit : Visit

namespace Group

variable {ι σ τ : Type} [DecidableEq ι] [TokenStore σ] [Transport τ] (d : ι → Descriptor)

/-- What the collector whose turn it is works on. -/
def world (group : Group ι σ) (turn : Turn ι τ) : World σ τ where
  store := group.store
  transport := turn.transport
  session := group.sessions turn.who

/-- The group after a turn: the store, and what one of the collectors remembers. -/
def after (group : Group ι σ) (turn : Turn ι τ) : Group ι σ :=
  let world := turn.visit.after (d turn.who) (group.world turn)
  { store := world.store
    sessions := fun i => if i = turn.who then world.session else group.sessions i }

/-- What is done in a turn. -/
def deeds (group : Group ι σ) (turn : Turn ι τ) : List Deed :=
  turn.visit.deeds (d turn.who) (group.world turn)

/-- The group after turns. -/
def afterAll (group : Group ι σ) (turns : List (Turn ι τ)) : Group ι σ :=
  turns.foldl (fun group turn => group.after d turn) group

/-- Everything that is done in turns. -/
def history (group : Group ι σ) : List (Turn ι τ) → List Deed
  | [] => []
  | turn :: turns => group.deeds d turn ++ history (group.after d turn) turns

end Group

/-! ## What a store in memory holds -/

section Cells

theorem getLast?_append_eq {α : Type} {first second : List α} :
    (first ++ second).getLast? = (first.getLast?.toList ++ second).getLast? := by
  rw [List.getLast?_append, List.getLast?_append]
  cases first.getLast? <;> rfl

variable {τ : Type} [Transport τ] {s s' : MemoryStore} {t t' : τ} {actions : List Action}

/-- A store in memory holds what was saved last. -/
theorem Backed.cell_eq (h : Backed s t actions s' t') :
    s'.cell = (s.cell.toList ++ actions.filterMap Action.saved?).getLast? := by
  induction h with
  | @nil s t => cases hcell : s.cell <;> simp
  | noted _ ih => exact ih
  | counted _ ih => exact ih
  | exchanged _ _ ih => exact ih
  | loaded _ ih => exact ih
  | saved token _ ih =>
    rw [ih]
    simp [Action.saved?, TokenStore.save, List.getLast?_append, List.getLast?_cons]

/-- The token that a request for one brings, created at the reading at which it was sent. -/
def issuedBy (asked : Instant × Option String) : Option CachedToken :=
  asked.2.map fun body => ⟨⟨body⟩, asked.1⟩

theorem issued_eq_asked {past : List Deed} :
    past.filterMap Deed.issued? = (past.filterMap Deed.asked?).filterMap issuedBy := by
  rw [List.filterMap_filterMap]
  refine congrArg (List.filterMap · past) (funext fun deed => ?_)
  unfold Deed.issued? Deed.asked? Action.issued? Action.asked?
  cases deed.action with
  | exchanged request answer =>
    by_cases hput : request.method = .put
    · simp [Action.exchange?, brought?, hput, issuedBy]
    · simp [Action.exchange?, brought?, hput]
  | _ => rfl

end Cells

/-! ## The store moves forward -/

/-- One token was created before another. -/
def Rises (earlier later : CachedToken) : Prop := earlier.createdAt.nanos < later.createdAt.nanos

/-- Of tokens created one after the other none is later than the last. -/
theorem le_getLast_of_rises {tokens : List CachedToken} (h : tokens.Pairwise Rises)
    {token : CachedToken} (hmem : token ∈ tokens) :
    ∃ last, tokens.getLast? = some last ∧ token.createdAt.nanos ≤ last.createdAt.nanos := by
  rcases List.eq_nil_or_concat tokens with rfl | ⟨front, last, rfl⟩
  · cases hmem
  · rw [List.concat_eq_append] at h hmem ⊢
    refine ⟨last, List.getLast?_concat, ?_⟩
    rcases List.mem_append.1 hmem with hfront | hlast
    · exact Int.le_of_lt ((List.pairwise_append.1 h).2.2 token hfront last List.mem_cons_self)
    · cases List.mem_singleton.1 hlast
      exact Int.le_refl _

/-- What a group has done so far, beginning with a token in the store: requests for tokens were
spaced, and of the tokens that the store has held each was created after the one before it, and the
last is held now. -/
structure Shared (ttl : Int) (initial : Option CachedToken) (past : List Deed)
    (cell : Option CachedToken) : Prop where
  spaced : (past.filterMap Deed.asked?).Pairwise (Spaced ttl)
  rising : (initial.toList ++ past.filterMap Deed.issued?).Pairwise Rises
  holds : cell = (initial.toList ++ past.filterMap Deed.issued?).getLast?

theorem Shared.start (ttl : Int) (initial : Option CachedToken) :
    Shared ttl initial [] initial := by
  cases initial with
  | none => exact ⟨.nil, .nil, rfl⟩
  | some token => exact ⟨.nil, List.pairwise_singleton _ _, rfl⟩

/-- A stored token that has ended goes back at least a lifetime. -/
theorem nanosAfter_le_of_ended {gate : TokenGate} {cached : CachedToken} {now : Instant}
    (h : (gate.sessionOf cached).isValidAt? now = some false) :
    cached.createdAt.nanosAfter gate.ttl ≤ now.nanos :=
  (SessionToken.isValidAt?_eq_some_false_iff.1 h).2

/-- More is done: either no token is asked for, or one is when the stored one has ended. -/
theorem Shared.step {ttl : Int} (hpos : 0 < ttl) {initial cell cell' : Option CachedToken}
    {past more : List Deed} (h : Shared ttl initial past cell)
    (hcell : cell' = (cell.toList ++ more.filterMap Deed.issued?).getLast?)
    (hmore : more.filterMap Deed.asked? = [] ∨
      ∃ now brought, more.filterMap Deed.asked? = [(now, brought)] ∧
        ∀ cached, cell = some cached → cached.createdAt.nanosAfter ttl ≤ now.nanos) :
    Shared ttl initial (past ++ more) cell' := by
  have hholds : cell' = (initial.toList ++ (past ++ more).filterMap Deed.issued?).getLast? := by
    rw [List.filterMap_append, ← List.append_assoc, getLast?_append_eq, ← h.holds]
    exact hcell
  rcases hmore with hnone | ⟨now, brought, hone, hended⟩
  · have hasked : (past ++ more).filterMap Deed.asked? = past.filterMap Deed.asked? := by
      rw [List.filterMap_append, hnone, List.append_nil]
    refine ⟨hasked ▸ h.spaced, ?_, hholds⟩
    rw [issued_eq_asked, hasked, ← issued_eq_asked]
    exact h.rising
  · have hasked : (past ++ more).filterMap Deed.asked? =
        past.filterMap Deed.asked? ++ [(now, brought)] := by
      rw [List.filterMap_append, hone]
    -- Whatever the store has held was created a lifetime ago.
    have hpast : ∀ token ∈ initial.toList ++ past.filterMap Deed.issued?,
        token.createdAt.nanosAfter ttl ≤ now.nanos := by
      intro token hmem
      obtain ⟨last, hlast, hle⟩ := le_getLast_of_rises h.rising hmem
      exact Int.le_trans (Instant.nanosAfter_mono hle) (hended last (h.holds.trans hlast))
    refine ⟨?_, ?_, hholds⟩
    · rw [hasked, List.pairwise_append]
      refine ⟨h.spaced, List.pairwise_singleton _ _, ?_⟩
      rintro ⟨earlier, issued⟩ hmem last hlast hissued
      cases List.mem_singleton.1 hlast
      obtain ⟨body, rfl⟩ := Option.isSome_iff_exists.1 hissued
      refine hpast ⟨⟨body⟩, earlier⟩ (List.mem_append_right _ ?_)
      rw [issued_eq_asked]
      exact List.mem_filterMap.2 ⟨_, hmem, rfl⟩
    · rw [issued_eq_asked, hasked, List.filterMap_append, ← issued_eq_asked, ← List.append_assoc,
        List.pairwise_append]
      refine ⟨h.rising, ?_, ?_⟩
      · cases brought with
        | none => exact .nil
        | some body => exact List.pairwise_singleton _ _
      · intro earlier hmem later hlater
        have hle := hpast earlier hmem
        obtain ⟨body, -, rfl⟩ : ∃ body, brought = some body ∧ later = ⟨⟨body⟩, now⟩ := by
          cases brought with
          | none => cases hlater
          | some body => exact ⟨body, rfl, List.mem_singleton.1 hlater⟩
        have hrises : earlier.createdAt.nanos < now.nanos := by
          unfold Instant.nanosAfter at hle
          omega
        exact hrises

/-! ## All turns -/

section Turns

variable {ι τ : Type} [DecidableEq ι] [Transport τ] {d : ι → Descriptor} {ttl : Int}

/-- What a turn does to the store, and when a token is asked for in it. -/
theorem Group.turn_shared (hgate : ∀ i gate, (d i).gate? = some gate → gate.ttl = ttl)
    (hpos : 0 < ttl) {initial : Option CachedToken} {past : List Deed}
    {group : Group ι MemoryStore} (h : Shared ttl initial past group.store.cell)
    (turn : Turn ι τ) :
    Shared ttl initial (past ++ group.deeds d turn) (group.after d turn).store.cell := by
  have hbacked := turn.visit.backed (d turn.who) (group.world turn)
  have hperforms := turn.visit.performs (d turn.who) (group.world turn)
  refine h.step hpos ?_ ?_
  · rw [Group.deeds, ← Visit.saved_issued, Visit.deeds, List.filterMap_map]
    exact hbacked.cell_eq
  · rw [Group.deeds, Visit.deeds, asked_deeds]
    rcases hperforms.asks with hnone | ⟨gate, brought, hgated, hone, hasks⟩
    · exact .inl (by rw [hnone, List.map_nil])
    · refine .inr ⟨turn.visit.now, brought, by rw [hone, List.map_singleton], ?_⟩
      intro cached hcell
      obtain ⟨outcome, rest, hencloses, hended⟩ := hasks.consulted
      have hloaded : outcome = .ok (some cached) := by
        rw [hbacked.load_eq hencloses, ← hcell]
        rfl
      rw [← hgate turn.who gate hgated]
      exact nanosAfter_le_of_ended (hended cached hloaded)

/-- Collectors that share a store share tokens.  Once the service has issued a token to one of them,
every later request for a token, whoever sends it, is sent a lifetime after that one.  And the store
holds the token that was issued last, which was created after all that the store has held before. -/
theorem shared_requests_spaced (hvalid : ∀ i, (d i).validate = .ok ())
    (hgate : ∀ i, ∃ gate, (d i).gate? = some gate ∧ gate.ttl = ttl)
    (group : Group ι MemoryStore) (turns : List (Turn ι τ)) :
    let past := group.history d turns
    let tokens := group.store.cell.toList ++ past.filterMap Deed.issued?
    (past.filterMap Deed.asked?).Pairwise (Spaced ttl) ∧
      tokens.Pairwise (fun earlier later => earlier.createdAt.nanos < later.createdAt.nanos) ∧
      (group.afterAll d turns).store.cell = tokens.getLast? := by
  have hlifetime : ∀ i gate, (d i).gate? = some gate → gate.ttl = ttl := by
    intro i gate hgated
    obtain ⟨other, hother, httl⟩ := hgate i
    cases hgated.symm.trans hother
    exact httl
  have hshared : Shared ttl group.store.cell (group.history d turns)
      (group.afterAll d turns).store.cell := by
    refine chronicle_induction
      (I := fun past (later : Group ι MemoryStore) => Shared ttl group.store.cell past later.store.cell)
      (fun _ => rfl) (fun _ _ _ => rfl) (.start ttl group.store.cell) ?_ turns
    intro past later turn h
    obtain ⟨gate, hgated, rfl⟩ := hgate turn.who
    exact Group.turn_shared hlifetime (Descriptor.ttl_pos (hvalid turn.who) hgated) h turn
  exact ⟨hshared.spaced, hshared.rising, hshared.holds⟩

/-- Two collectors on a store whose token has lapsed.  One is issued a token in the seventh minute,
which the other takes from the store and replaces when it has lapsed.  The first one, whose clock is
behind, still uses what it remembers, and then takes from the store what the other was issued. -/
theorem shared_requests_spaced_two :
    let d : Bool → Descriptor := fun _ => Descriptor.linkLocal
    let group : Group Bool MemoryStore :=
      { store := ⟨some ⟨⟨"old"⟩, .minute 0⟩⟩, sessions := fun _ => none }
    let issuing (secret : String) : Script := ⟨[.ok ⟨200, secret⟩]⟩
    let turns : List (Turn Bool Script) :=
      [⟨true, issuing "first", .minute 6, .token⟩, ⟨false, {}, .minute 7, .token⟩,
        ⟨false, issuing "second", .minute 12, .token⟩, ⟨true, {}, .minute 8, .token⟩,
        ⟨true, {}, .minute 13, .token⟩]
    (∀ i, (d i).validate = .ok ()) ∧
      (group.history d turns).filterMap Deed.asked? =
        [(.minute 6, some "first"), (.minute 12, some "second")] ∧
      (Instant.minute 6).nanosAfter Descriptor.linkLocalGate.ttl ≤ (Instant.minute 12).nanos ∧
      (group.afterAll d turns).store.cell = some ⟨⟨"second"⟩, .minute 12⟩ := by
  intro d group issuing turns
  have hvalid : ∀ i, (d i).validate = .ok () := fun _ => Descriptor.linkLocal_validate
  have hgate : ∀ i, ∃ gate, (d i).gate? = some gate ∧ gate.ttl = Descriptor.linkLocalGate.ttl :=
    fun _ => ⟨_, Descriptor.linkLocal_gate?, rfl⟩
  obtain ⟨hspaced, -, hcell⟩ := shared_requests_spaced hvalid hgate group turns
  have hasked : (group.history d turns).filterMap Deed.asked? =
      [(.minute 6, some "first"), (.minute 12, some "second")] := by
    decide +kernel
  rw [issued_eq_asked, hasked] at hcell
  rw [hasked] at hspaced
  have hlifetime : Spaced Descriptor.linkLocalGate.ttl (.minute 6, some "first")
      (.minute 12, some "second") :=
    (List.pairwise_cons.1 hspaced).1 _ List.mem_cons_self
  exact ⟨hvalid, hasked, hlifetime rfl, hcell⟩

end Turns

end InstanceIdentity.Collection
