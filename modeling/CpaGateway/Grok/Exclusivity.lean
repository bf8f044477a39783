import CpaGateway.Grok.Claims

/-! # Claims on native accounts are exclusive

The calls of the workers and of the reauthentication on one store, in any order and at any times. A
call is atomic: it runs under the lock of the store. Jobs are handed out by claims; a completion is
of a job that was handed out, and may be called again, late, or never. The random identifiers of
claims are assumed to be new.

`step_refines` makes the pool a system of leases, whose invariant `Lease.Sound` gives all
guarantees. -/

namespace CpaGateway.Grok.Exclusivity

open Grok.AccountStore Grok.AccountWorker Grok.Reauth Grok.Claims Lib.Effect Lib.Lease Lib.Tables
open Lib.Transition Claim Completion

/-- A claim that was handed out, with its deadline and the stored credential that it was made from.
-/
structure Handed where
  claim : Claim
  deadline : ℤ
  credential : StoredSecret

/-- The store, and all claims that were handed out. -/
structure Pool where
  store : GrokAccountPoolStore
  handed : List Handed := []

/-- Records a claim. -/
def handOut (s : GrokAccountPoolStore) (deadline : ℤ) (claim : Claim) : Option Handed :=
  (s.accounts.lookup claim.accountId).map fun row => ⟨claim, deadline, row.credential⟩

/-- The identifier was not drawn before. -/
def Pool.IsNew (p : Pool) (claimId : ClaimId) : Prop := ∀ h ∈ p.handed, h.claim.claimId ≠ claimId

inductive Label
  | claimed (new : List Handed)
  | claimFailed
  | completed (c : Completion) (success : Bool)

/-- One call. -/
inductive Step (services : Services) : Pool → Label → Pool → Prop
  | claimJobs {p : Pool} {kind observedAtMs claimLeaseMs limit} {draw : ℕ → Option ClaimId}
    {jobs s'}
    (hnew : ∀ i claimId, draw i = some claimId → p.IsNew claimId)
    (hdistinct : ∀ i j claimId, draw i = some claimId → draw j = some claimId → i = j)
    (h : (claimDueWorkerJobs services kind observedAtMs limit claimLeaseMs draw).call p.store =
      (.ok jobs, s')) :
    Step services p
      (.claimed ((jobs.map worker).filterMap (handOut p.store (observedAtMs + claimLeaseMs))))
      ⟨s', p.handed ++
        (jobs.map worker).filterMap (handOut p.store (observedAtMs + claimLeaseMs))⟩
  | claimJobsFailed {p : Pool} {kind observedAtMs claimLeaseMs limit draw e s'}
    (h : (claimDueWorkerJobs services kind observedAtMs limit claimLeaseMs draw).call p.store =
      (.error e, s')) : Step services p .claimFailed ⟨s', p.handed⟩
  | claimReauth {p : Pool} {observedAtMs claimLeaseMs drawn job s'}
    (hnew : ∀ claimId, drawn = some claimId → p.IsNew claimId)
    (h : (claimDueReauthJob services observedAtMs claimLeaseMs drawn).call p.store =
      (.ok job, s')) :
    Step services p
      (.claimed ((job.toList.map reauth).filterMap (handOut p.store (observedAtMs + claimLeaseMs))))
      ⟨s', p.handed ++
        (job.toList.map reauth).filterMap (handOut p.store (observedAtMs + claimLeaseMs))⟩
  | claimReauthFailed {p : Pool} {observedAtMs claimLeaseMs drawn e s'}
    (h : (claimDueReauthJob services observedAtMs claimLeaseMs drawn).call p.store =
      (.error e, s')) :
    Step services p .claimFailed ⟨s', p.handed⟩
  | complete {p : Pool} {c : Completion} {success s' handed}
    (hhanded : handed ∈ p.handed) (hclaim : handed.claim = c.claim)
    (h : c.call services p.store = (success, s')) : Step services p (.completed c success)
      ⟨s', p.handed⟩

/-! ### The pool as a system of leases -/

def Handed.ticket (h : Handed) : Ticket String GrokAccountAuthStatus ClaimId StoredSecret :=
  ⟨h.claim.accountId, h.claim.phase, h.claim.claimId, h.deadline, h.claim.expectedRevision,
    h.credential⟩

def Pool.leases (p : Pool) : State String GrokAccountAuthStatus ClaimId StoredSecret :=
  ⟨record p.store, slot p.store, p.handed.map Handed.ticket⟩

/-- How a call shows as a step of the leases. -/
def Shows : Label → Lib.Lease.Label String GrokAccountAuthStatus ClaimId StoredSecret → Prop
  | .claimed new, l => l = .claim (new.map Handed.ticket)
  | .claimFailed, l => l = .idle
  | .completed _ false, l => l = .idle
  | .completed c true, l => ∃ t, t.id = c.claim.claimId ∧ l = .complete t c.observedAtMs

variable {services : Services} {s : GrokAccountPoolStore} {accountId : String} {claims : List Claim}

section Refinement

variable {p p' : Pool} {l : Label} {row : AccountRow}

theorem record_of_lookup (h : s.accounts.lookup accountId = some row) :
    record s accountId = some ⟨row.revision, row.credential, row.authStatus⟩ := by
  rw [record, h]
  rfl

theorem claim_handOut {d : ℤ}
    (hfound : ∀ claim ∈ claims, ∃ row, s.accounts.lookup claim.accountId = some row) :
    (claims.filterMap (handOut s d)).map Handed.claim = claims := by
  induction claims with
  | nil => rfl
  | cons claim claims ih =>
    obtain ⟨row, hrow⟩ := hfound claim (.head _)
    have hout : handOut s d claim = some ⟨claim, d, row.credential⟩ := by rw [handOut, hrow]; rfl
    rw [List.filterMap_cons_some hout, List.map_cons, ih fun c hc => hfound c (.tail _ hc)]

variable {s' : GrokAccountPoolStore}

theorem claims_of {deadline : ℤ}
    (hnew : ∀ claim ∈ claims, p.IsNew claim.claimId) (hdistinct : (claims.map claimId).Nodup)
    (hcurrent : ∀ claim ∈ claims, ∃ row, p.store.accounts.lookup claim.accountId = some row ∧
      row.revision = claim.expectedRevision ∧ row.authStatus = claim.phase)
    (htaken : ∀ claim ∈ claims, slot s' claim.accountId claim.phase =
      some (claim.claimId, deadline))
    (hothers : ∀ key phase, (∀ claim ∈ claims, ¬(claim.accountId = key ∧ claim.phase = phase)) →
      slot s' key phase = slot p.store key phase)
    (hrecord : ∀ key, record s' key = record p.store key) :
    Claims p.leases (Pool.leases ⟨s', p.handed ++ claims.filterMap (handOut p.store deadline)⟩)
      ((claims.filterMap (handOut p.store deadline)).map Handed.ticket) := by
  have hclaims := claim_handOut (d := deadline) fun claim hclaim => by
    obtain ⟨row, hrow, -⟩ := hcurrent claim hclaim
    exact ⟨row, hrow⟩
  have hmem : ∀ t ∈ (claims.filterMap (handOut p.store deadline)).map Handed.ticket,
      ∃ claim ∈ claims, ∃ row, p.store.accounts.lookup claim.accountId = some row ∧
        t = Handed.ticket ⟨claim, deadline, row.credential⟩ := by
    intro t ht
    obtain ⟨h, hh, rfl⟩ := List.mem_map.mp ht
    obtain ⟨claim, hclaim, hout⟩ := List.mem_filterMap.mp hh
    obtain ⟨row, hrow, rfl⟩ := Option.map_eq_some_iff.mp hout
    exact ⟨claim, hclaim, row, hrow, rfl⟩
  refine ⟨?_, ?_, ?_, ?_, ?_, ?_, ?_⟩
  · intro t ht t' ht' hid
    obtain ⟨claim, hclaim, row, -, rfl⟩ := hmem t ht
    obtain ⟨h, hh, rfl⟩ := List.mem_map.mp ht'
    exact hnew claim hclaim h hh hid.symm
  · rw [← hclaims, List.map_map] at hdistinct
    rw [List.map_map]
    exact hdistinct
  · intro t ht
    obtain ⟨claim, hclaim, row, hrow, rfl⟩ := hmem t ht
    obtain ⟨row', hrow', hrevision, hstatus⟩ := hcurrent claim hclaim
    cases hrow'.symm.trans hrow
    have hfound := record_of_lookup hrow
    rw [hrevision, hstatus] at hfound
    exact hfound
  · intro t ht
    obtain ⟨claim, hclaim, row, -, rfl⟩ := hmem t ht
    exact htaken claim hclaim
  · intro key phase hne
    refine hothers key phase fun claim hclaim heq => ?_
    rw [← hclaims] at hclaim
    obtain ⟨h, hh, rfl⟩ := List.mem_map.mp hclaim
    exact hne h.ticket (List.mem_map_of_mem hh) heq
  · exact funext hrecord
  · exact List.map_append

variable {jobs : List GrokAccountWorkerJob} {draw : ℕ → Option ClaimId}

theorem nodup_drawn
    (hdistinct : ∀ i j claimId, draw i = some claimId → draw j = some claimId → i = j)
    (hdrawn : ∀ k job, jobs[k]? = some job → draw (0 + k) = some job.claimId) :
    ((jobs.map worker).map claimId).Nodup := by
  rw [List.map_map, List.nodup_iff_getElem?_ne_getElem?]
  intro i j hij hj heq
  rw [List.length_map] at hj
  rw [List.getElem?_map, List.getElem?_map, List.getElem?_eq_getElem hj,
    List.getElem?_eq_getElem (Nat.lt_trans hij hj), Option.map_some, Option.map_some,
    Option.some.injEq] at heq
  have hi' := hdrawn i _ (List.getElem?_eq_getElem (Nat.lt_trans hij hj))
  have hj' := hdrawn j _ (List.getElem?_eq_getElem hj)
  have hsame := hdistinct _ _ _ hi' (hj'.trans (congrArg some heq.symm))
  omega

variable {observedAtMs claimLeaseMs : ℤ}

theorem claims_of_jobs {kind : GrokAccountWorkerKind} {limit : ℕ}
    (hnew : ∀ i claimId, draw i = some claimId → p.IsNew claimId)
    (hdistinct : ∀ i j claimId, draw i = some claimId → draw j = some claimId → i = j)
    (h : (claimDueWorkerJobs services kind observedAtMs limit claimLeaseMs draw).call p.store =
      (.ok jobs, s')) :
    Claims p.leases
      (Pool.leases ⟨s', p.handed ++
        (jobs.map worker).filterMap (handOut p.store (observedAtMs + claimLeaseMs))⟩)
      (((jobs.map worker).filterMap
        (handOut p.store (observedAtMs + claimLeaseMs))).map Handed.ticket) := by
  obtain ⟨entries, hentries, hclaims⟩ := claimDueWorkerJobs_ok h
  have hlookup : ∀ key, record s' key = record p.store key := by
    intro key
    by_cases hkey : key ∈ entries.map Prod.fst
    · rw [← hclaims.accountIds, List.mem_map] at hkey
      obtain ⟨job, hjob, rfl⟩ := hkey
      obtain ⟨row, hrow, -, hclaimed⟩ := hclaims.jobs job hjob
      rw [record_of_lookup hclaimed, record_of_lookup (hentries _ hrow).1]
      rfl
    · rw [record, record, hclaims.others key hkey]
  refine claims_of ?_ (nodup_drawn hdistinct hclaims.drawn) ?_ ?_ ?_ hlookup
  · intro claim hclaim
    obtain ⟨job, hjob, rfl⟩ := List.mem_map.mp hclaim
    obtain ⟨k, hk⟩ := List.getElem?_of_mem hjob
    exact hnew _ _ (hclaims.drawn k job hk)
  · intro claim hclaim
    obtain ⟨job, hjob, rfl⟩ := List.mem_map.mp hclaim
    obtain ⟨row, hrow, hof, -⟩ := hclaims.jobs job hjob
    exact ⟨row, (hentries _ hrow).1, hof.revision, (hentries _ hrow).2⟩
  · intro claim hclaim
    obtain ⟨job, hjob, rfl⟩ := List.mem_map.mp hclaim
    obtain ⟨row, -, -, hclaimed⟩ := hclaims.jobs job hjob
    simp [slot, phase, accountId, claimId, hclaimed, claimed]
  · intro key phase hne
    cases phase with
    | active =>
      have hkey : key ∉ entries.map Prod.fst := by
        rw [← hclaims.accountIds, List.mem_map]
        rintro ⟨job, hjob, rfl⟩
        exact hne (.worker job) (List.mem_map_of_mem hjob) ⟨rfl, rfl⟩
      rw [slot, slot, hclaims.others key hkey]
    | reauthRequired => rw [slot, slot, hclaims.reauthState]
    | disabled => rfl

theorem claims_of_reauth {drawn : Option ClaimId}
    {job : Option GrokReauthJob} (hnew : ∀ claimId, drawn = some claimId → p.IsNew claimId)
    (h : (claimDueReauthJob services observedAtMs claimLeaseMs drawn).call p.store =
      (.ok job, s')) :
    Claims p.leases
      (Pool.leases ⟨s', p.handed ++
        (job.toList.map reauth).filterMap (handOut p.store (observedAtMs + claimLeaseMs))⟩)
      (((job.toList.map reauth).filterMap
        (handOut p.store (observedAtMs + claimLeaseMs))).map Handed.ticket) := by
  rcases claimDueReauthJob_ok h with ⟨rfl, rfl⟩ |
    ⟨job, row, rfl, hdrawn, hlookup, hstatus, hrevision, -, -, state, rfl⟩
  · exact claims_of (by simp) (by simp) (by simp) (by simp) (fun _ _ _ => slot_addReauthState _ _ _)
      fun _ => rfl
  · have hone : ∀ claim ∈ (some job).toList.map reauth, claim = .reauth job := by simp
    refine claims_of ?_ (by simp) ?_ ?_ ?_ fun _ => rfl
    · intro claim hclaim
      rw [hone claim hclaim]
      exact hnew _ hdrawn
    · intro claim hclaim
      rw [hone claim hclaim]
      exact ⟨row, hlookup, hrevision, hstatus⟩
    · intro claim hclaim
      rw [hone claim hclaim, slot_setReauth]
      exact if_pos ⟨rfl, rfl⟩
    · intro key phase hne
      rw [slot_setReauth, if_neg, slot_addReauthState]
      rintro ⟨rfl, rfl⟩
      exact hne (.reauth job) (by simp) ⟨rfl, rfl⟩

theorem completes_of {c : Completion} {handed : Handed}
    (hhanded : handed ∈ p.handed) (hclaim : handed.claim = c.claim)
    (h : c.call services p.store = (true, s')) :
    Completes p.leases (Pool.leases ⟨s', p.handed⟩) handed.ticket c.observedAtMs := by
  obtain ⟨hheld, hemptied, hothers, hreplaced, haccounts⟩ := call_true h
  rw [← hclaim] at hheld hemptied hothers hreplaced haccounts
  refine ⟨List.mem_map_of_mem hhanded, hheld, hemptied, hothers, ?_, ?_, rfl⟩
  · intro r hr
    obtain ⟨row, hrow, rfl⟩ := Option.map_eq_some_iff.mp hr
    obtain ⟨row', hrow', hchange⟩ := hreplaced row hrow
    exact ⟨_, record_of_lookup hrow', hchange⟩
  · intro key hne
    exact congrArg (Option.map AccountRow.record) (haccounts key hne)

/-- **Every call is a step of the lease system.** -/
theorem step_refines (hstep : Step services p l p') :
    ∃ l', Lib.Lease.Step p.leases l' p'.leases ∧ Shows l l' := by
  cases hstep with
  | claimJobs hnew hdistinct h => exact ⟨_, .claim (claims_of_jobs hnew hdistinct h), rfl⟩
  | claimJobsFailed h =>
    rw [restores_claims _ _ _ h]
    exact ⟨_, .idle, rfl⟩
  | claimReauth hnew h => exact ⟨_, .claim (claims_of_reauth hnew h), rfl⟩
  | claimReauthFailed h =>
    rw [restores_reauth _ _ _ h]
    exact ⟨_, .idle, rfl⟩
  | @complete c success s' handed hhanded hclaim h =>
    cases success with
    | true =>
      exact ⟨_, .complete (completes_of hhanded hclaim h), handed.ticket,
        congrArg claimId hclaim, rfl⟩
    | false =>
      rw [call_false h]
      exact ⟨_, .idle, rfl⟩

theorem run_refines {trace : List Label} (h : Run (Step services) p trace p') :
    ∃ trace', Run Lib.Lease.Step p.leases trace' p'.leases ∧
      ∀ l ∈ trace, ∃ l' ∈ trace', Shows l l' :=
  Run.simulate (fun _ _ _ hstep => step_refines hstep) h

end Refinement

/-! ### Guarantees -/

section Runs

variable {store : GrokAccountPoolStore} {trace : List Label} {p p' : Pool} {c c' : Completion}
  {l : Label}

/-- A later claim of the same kind was made on the account. -/
def Superseded (p : Pool) (h : Handed) : Prop :=
  ∃ earlier later, p.handed = earlier ++ h :: later ∧
    ∃ h' ∈ later, h'.claim.accountId = h.claim.accountId ∧ h'.claim.phase = h.claim.phase

theorem sound_of_run (h : Run (Step services) { store } trace p) : Sound p.leases := by
  obtain ⟨trace', hrun, -⟩ := run_refines h
  refine Lib.Lease.sound_of_run ?_ hrun
  exact ⟨by simp [Pool.leases], by simp [Pool.leases], by simp [Pool.leases], by simp [Pool.leases]⟩

theorem Handed.eq_of_id (hsound : Sound p.leases) {h h' : Handed} (hh : h ∈ p.handed)
    (hh' : h' ∈ p.handed) (hid : h.claim.claimId = h'.claim.claimId) : h = h' := by
  have hnodup : (p.handed.map fun h => h.claim.claimId).Nodup := by
    have hdistinct := hsound.distinct
    rw [Pool.leases, List.map_map] at hdistinct
    exact hdistinct
  exact List.inj_on_of_nodup_map hnodup hh hh' hid

/-- The holder of a claim works with the credential that was stored then. -/
theorem opened_step (hstep : Step services p l p')
    (hopened : ∀ h ∈ p.handed, services.openSecret h.credential h.claim.aad =
      some h.claim.credential) :
    ∀ h ∈ p'.handed, services.openSecret h.credential h.claim.aad = some h.claim.credential := by
  have happend : ∀ {s' : GrokAccountPoolStore} {claims : List Claim} {d : ℤ},
      (∀ claim ∈ claims, ∀ row, p.store.accounts.lookup claim.accountId = some row →
        services.openSecret row.credential claim.aad = some claim.credential) →
      ∀ h ∈ (Pool.mk s' (p.handed ++ claims.filterMap (handOut p.store d))).handed,
        services.openSecret h.credential h.claim.aad = some h.claim.credential := by
    intro s' claims d hclaims h hh
    rcases List.mem_append.mp hh with hold | hnew
    · exact hopened h hold
    · obtain ⟨claim, hclaim, hout⟩ := List.mem_filterMap.mp hnew
      obtain ⟨row, hrow, rfl⟩ := Option.map_eq_some_iff.mp hout
      exact hclaims claim hclaim row hrow
  cases hstep with
  | claimJobs hnew hdistinct h =>
    obtain ⟨entries, hentries, hclaims⟩ := claimDueWorkerJobs_ok h
    refine happend fun claim hclaim row hrow => ?_
    obtain ⟨job, hjob, rfl⟩ := List.mem_map.mp hclaim
    obtain ⟨found, hfound, hof, -⟩ := hclaims.jobs job hjob
    have heq : found = row := Option.some.inj ((hentries _ hfound).1.symm.trans hrow)
    exact heq ▸ hof.credential
  | claimReauth hnew h =>
    refine happend fun claim hclaim row hrow => ?_
    rcases claimDueReauthJob_ok h with ⟨rfl, -⟩ |
      ⟨job, found, rfl, -, hlookup, -, -, -, hopen, -⟩
    · simp at hclaim
    · have hone : claim = .reauth job := by simpa using hclaim
      subst hone
      have heq : found = row := Option.some.inj (hlookup.symm.trans hrow)
      exact heq ▸ hopen
  | claimJobsFailed | claimReauthFailed | complete => exact hopened

theorem unchanged_of_record {s' : GrokAccountPoolStore} {row : AccountRow}
    {Q : AccountRow → Prop} (hrow : s.accounts.lookup accountId = some row)
    (hrecord : record s' accountId = record s accountId) :
    ∃ row', s'.accounts.lookup accountId = some row' ∧
      (row'.revision = row.revision ∧ row'.credential = row.credential ∨ Q row') := by
  rw [record_of_lookup hrow] at hrecord
  obtain ⟨row', hrow', heq⟩ := Option.map_eq_some_iff.mp hrecord
  exact ⟨row', hrow', .inl ⟨congrArg Record.revision heq, congrArg Record.content heq⟩⟩

/-- **No lost update**: a credential is replaced by what was made from it. -/
theorem replaced_step {row : AccountRow} (hsound : Sound p.leases)
    (hopened : ∀ h ∈ p.handed, services.openSecret h.credential h.claim.aad =
      some h.claim.credential) (hstep : Step services p l p')
    (hrow : p.store.accounts.lookup accountId = some row) :
    ∃ row', p'.store.accounts.lookup accountId = some row' ∧
      (row'.revision = row.revision ∧ row'.credential = row.credential ∨
        row'.revision = row.revision + 1 ∧ ∃ c, l = .completed c true ∧
        c.claim.accountId = accountId ∧
          c.claim.expectedRevision = row.revision ∧
          services.openSecret row.credential c.claim.aad = some c.claim.credential) := by
  cases hstep with
  | claimJobs hnew hdistinct h =>
    exact unchanged_of_record hrow (congrFun (claims_of_jobs hnew hdistinct h).record _)
  | claimJobsFailed h => exact unchanged_of_record hrow (by rw [restores_claims _ _ _ h])
  | claimReauth hnew h =>
    exact unchanged_of_record hrow (congrFun (claims_of_reauth hnew h).record _)
  | claimReauthFailed h => exact unchanged_of_record hrow (by rw [restores_reauth _ _ _ h])
  | @complete c success s' handed hhanded hclaim h =>
    cases success with
    | false => exact unchanged_of_record hrow (by rw [call_false h])
    | true =>
      have hcompletes := completes_of hhanded hclaim h
      by_cases haccount : accountId = handed.claim.accountId
      · subst haccount
        obtain ⟨-, r, hr, -, -, hcontent⟩ := hcompletes.current hsound
        have heq := Option.some.inj (hr.symm.trans (record_of_lookup hrow))
        rw [heq] at hcontent
        obtain ⟨r', hr', hchange⟩ := hcompletes.replaced _ (record_of_lookup hrow)
        obtain ⟨row', hrow', rfl⟩ := Option.map_eq_some_iff.mp hr'
        refine ⟨row', hrow', hchange.imp_right fun hnext => ⟨hnext.2, c, rfl, ?_, ?_, ?_⟩⟩
        · rw [hclaim]
        · rw [← hclaim]
          exact hnext.1.symm
        · have hopen := hopened handed hhanded
          rw [hclaim] at hopen
          have hcredential : row.credential = handed.credential := hcontent
          rw [hcredential]
          exact hopen
      · exact unchanged_of_record hrow (hcompletes.record accountId haccount)

/-- **A completed claim is not completed again.** -/
theorem completed_once {before after : List Label}
    (h : Run (Step services) { store } (before ++ .completed c true :: after) p)
    (hsame : c'.claim = c.claim) : .completed c' true ∉ after := by
  obtain ⟨p₀, p₁, hbefore, hstep, hafter⟩ := h.at_label
  have hsound := sound_of_run hbefore
  cases hstep with
  | @complete _ _ s' handed hhanded hclaim hcall =>
    have hcompletes := completes_of hhanded hclaim hcall
    have hout := hcompletes.not_held hsound hcompletes.issued rfl
    obtain ⟨after', hrun, hshows⟩ := run_refines hafter
    intro hmem
    obtain ⟨l', hl', t, hid, rfl⟩ := hshows _ hmem
    refine not_completed_of_run (hsound.complete hcompletes)
      (List.mem_map_of_mem hhanded) hout hrun _ hl'
      t _ rfl ?_
    rw [hid, hsame, ← hclaim]
    rfl

end Runs

/-- **Claims are exclusive and completions are not lost.** In every reachable state: (1) of the
claims on an account at most one can be completed, of whatever kind; (2) no claim is completed
twice; (3) a completion fails and changes nothing when its claim was superseded, has expired at the
time of the call, or was made from another revision of the account; (4) a call replaces the
credential of an account only under the next revision, by a completion of a claim whose holder
worked with the credential that is replaced. -/
theorem claims_exclusive {services : Services} {store : GrokAccountPoolStore} {trace : List Label}
    {p : Pool} (h : Run (Step services) { store } trace p) :
    (∀ c c' : Completion, (∃ h ∈ p.handed, h.claim = c.claim) →
      (∃ h ∈ p.handed, h.claim = c'.claim) →
      c.claim.accountId = c'.claim.accountId → (c.call services p.store).1 = true →
      (c'.call services p.store).1 = true → c.claim = c'.claim) ∧
    (∀ before c after c', trace = before ++ .completed c true :: after → c'.claim = c.claim →
      .completed c' true ∉ after) ∧
    (∀ (c : Completion), ∀ h ∈ p.handed, h.claim = c.claim →
      (Superseded p h ∨ h.deadline ≤ c.observedAtMs ∨
        ∃ row, p.store.accounts.lookup h.claim.accountId = some row ∧
          row.revision ≠ h.claim.expectedRevision) →
      c.call services p.store = (false, p.store)) ∧
    ∀ l p', Step services p l p' → ∀ accountId row, p.store.accounts.lookup accountId = some row →
      ∃ row', p'.store.accounts.lookup accountId = some row' ∧
        (row'.revision = row.revision ∧ row'.credential = row.credential ∨
          row'.revision = row.revision + 1 ∧ ∃ c, l = .completed c true ∧
          c.claim.accountId = accountId ∧
            c.claim.expectedRevision = row.revision ∧
            services.openSecret row.credential c.claim.aad = some c.claim.credential) := by
  have hsound := sound_of_run h
  refine ⟨?_, ?_, ?_, ?_⟩
  · rintro c c' ⟨h, hh, hclaim⟩ ⟨h', hh', hclaim'⟩ haccount hok hok'
    have hheld : ∀ {c : Completion} {h : Handed}, h ∈ p.handed → h.claim = c.claim →
        (c.call services p.store).1 = true → Held p.leases h.ticket := by
      intro c h hh hclaim hok
      obtain ⟨deadline, hslot, -⟩ := (completes_of hh hclaim (Prod.ext hok rfl)).held
      exact ⟨deadline, hslot⟩
    have hkey : h.ticket.key = h'.ticket.key := by
      have heq : h.claim.accountId = h'.claim.accountId := by rw [hclaim, hclaim', haccount]
      exact heq
    have hticket := held_unique hsound (List.mem_map_of_mem hh) (List.mem_map_of_mem hh') hkey
      (hheld hh hclaim hok) (hheld hh' hclaim' hok')
    have heq := Handed.eq_of_id hsound hh hh' (congrArg Ticket.id hticket)
    rw [← hclaim, ← hclaim', heq]
  · rintro before c after c' rfl hsame
    exact completed_once h hsame
  · intro c h hh hclaim hwhy
    rcases hcall : c.call services p.store with ⟨success, s'⟩
    cases success with
    | false => rw [call_false hcall]
    | true =>
      exfalso
      have hcompletes := completes_of hh hclaim hcall
      obtain ⟨hdeadline, r, hr, -, hrevision, -⟩ := hcompletes.current hsound
      rcases hwhy with
        ⟨earlier, later, hsplit, h', hh', haccount, hphase⟩ | hexpired | ⟨row, hrow, hne⟩
      · have hpairs := hsound.superseded
        rw [Pool.leases, hsplit, List.map_append, List.map_cons, List.pairwise_append,
          List.pairwise_cons] at hpairs
        obtain ⟨deadline, hslot, -⟩ := hcompletes.held
        exact hpairs.2.1.1 h'.ticket (List.mem_map_of_mem hh') haccount.symm hphase.symm
          ⟨deadline, hslot⟩
      · exact absurd hdeadline (not_lt.mpr hexpired)
      · have heq := Option.some.inj (hr.symm.trans (record_of_lookup hrow))
        rw [heq] at hrevision
        exact hne hrevision
  · intro l p' hstep accountId row hrow
    exact replaced_step hsound (h.keeps (fun _ _ _ hs hl => opened_step hl hs) (by simp)) hstep hrow

/-! ### An account that is claimed again -/

def sampleStore : GrokAccountPoolStore := ⟨AList.singleton "account" sampleRow, ∅, []⟩

/-- A refresh of the account. -/
def sampleJob (claimId : ClaimId) : GrokAccountWorkerJob :=
  ⟨"account", .build, .refresh, claimId, 0, List.replicate 32 0, [1]⟩

/-- The store after the refresh was claimed for a second. -/
def sampleClaimed (claimId : ClaimId) (observedAtMs : ℤ) : GrokAccountPoolStore :=
  setAccount sampleStore "account"
    (claimed .refresh claimId observedAtMs (observedAtMs + 1000) sampleRow)

def sampleHanded (claimId : ClaimId) (deadline : ℤ) : Handed :=
  ⟨.worker (sampleJob claimId), deadline, ⟨1, [1]⟩⟩

/-- The claim of one account, with a random identifier. -/
def sampleClaim (claimId : ClaimId) (observedAtMs : ℤ) :
    AccountWorker.Operation (List GrokAccountWorkerJob) :=
  claimDueWorkerJobs sampleServices .refresh observedAtMs 1 1000 fun i => if i = 0 then some claimId
    else none

theorem dueRows_sample {s : GrokAccountPoolStore} {r : AccountRow} {observedAtMs : ℤ}
    (hrows : s.accounts.rows = [("account", r)])
    (hdue : AccountWorker.isDue .refresh observedAtMs r = true) :
    dueRows s.accounts .refresh observedAtMs 1 = [("account", r)] := by
  rw [dueRows, hrows, List.filter_cons_of_pos (by exact hdue), List.filter_nil,
    List.mergeSort_singleton]
  rfl

theorem call_sampleClaim :
    (sampleClaim ⟨7⟩ 0).call sampleStore = (.ok [sampleJob ⟨7⟩], sampleClaimed ⟨7⟩ 0) := by
  simp only [sampleClaim, claimDueWorkerJobs, call_ok, call_transaction_ok]
  refine ⟨(), rfl, (), rfl, ?_⟩
  rw [dueRows_sample (r := sampleRow) rfl rfl]
  rfl

theorem call_sampleReclaim :
    (sampleClaim ⟨8⟩ 1000).call (sampleClaimed ⟨7⟩ 0) =
      (.ok [sampleJob ⟨8⟩], sampleClaimed ⟨8⟩ 1000) := by
  simp only [sampleClaim, claimDueWorkerJobs, call_ok, call_transaction_ok]
  refine ⟨(), rfl, (), rfl, ?_⟩
  rw [dueRows_sample (r := claimed .refresh ⟨7⟩ 0 1000 sampleRow) rfl rfl]
  rfl

theorem step_sampleClaim {s s' : GrokAccountPoolStore} {handed : List Handed} {claimId : ClaimId}
    {observedAtMs : ℤ}
    (hclaim : (sampleClaim claimId observedAtMs).call s = (.ok [sampleJob claimId], s'))
    (hout : handOut s (observedAtMs + 1000) (.worker (sampleJob claimId)) =
      some (sampleHanded claimId (observedAtMs + 1000))) (hnew : Pool.IsNew ⟨s, handed⟩ claimId) :
    Step sampleServices ⟨s, handed⟩ (.claimed [sampleHanded claimId (observedAtMs + 1000)])
      ⟨s', handed ++ [sampleHanded claimId (observedAtMs + 1000)]⟩ := by
  have hfresh : ∀ i drawn, (if i = 0 then some claimId else none) = some drawn →
      Pool.IsNew ⟨s, handed⟩ drawn := by
    intro i drawn h
    split_ifs at h
    cases h
    exact hnew
  have hdistinct : ∀ i j drawn, (if i = 0 then some claimId else none) = some drawn →
      (if j = 0 then some claimId else none) = some drawn → i = j := by
    intro i j drawn hi hj
    split_ifs at hi hj
    omega
  have hstep := Step.claimJobs (p := ⟨s, handed⟩) hfresh hdistinct hclaim
  rw [List.map_singleton, List.filterMap_cons_some hout] at hstep
  exact hstep

/-- The account is claimed, and claimed again at the deadline of the first claim. -/
theorem run_sampleReclaim :
    Run (Step sampleServices) ⟨sampleStore, []⟩
      [.claimed [sampleHanded ⟨7⟩ 1000], .claimed [sampleHanded ⟨8⟩ 2000]]
      ⟨sampleClaimed ⟨8⟩ 1000, [sampleHanded ⟨7⟩ 1000, sampleHanded ⟨8⟩ 2000]⟩ :=
  .cons (step_sampleClaim call_sampleClaim rfl (by simp [Pool.IsNew]))
    (.cons (step_sampleClaim call_sampleReclaim rfl
      (by simp [Pool.IsNew, sampleHanded, Claim.claimId, sampleJob])) (.nil _))

/-- A refresh by the second job. -/
def sampleRefresh : Completion := .refresh (sampleJob ⟨8⟩) [9] 5000 1001

def sampleRefreshed : GrokAccountPoolStore :=
  (sampleRefresh.call sampleServices (sampleClaimed ⟨8⟩ 1000)).2

theorem run_sampleRefresh :
    Run (Step sampleServices) ⟨sampleStore, []⟩
      [.claimed [sampleHanded ⟨7⟩ 1000], .claimed [sampleHanded ⟨8⟩ 2000],
        .completed sampleRefresh true]
      ⟨sampleRefreshed, [sampleHanded ⟨7⟩ 1000, sampleHanded ⟨8⟩ 2000]⟩ :=
  run_sampleReclaim.append (.cons (.complete (.tail _ (.head _)) rfl rfl) (.nil _))

/-- The first job comes too late, also with an old reading of the clock; the second one completes
its refresh, and only once. -/
theorem claims_exclusive_sample :
    (failure (sampleJob ⟨7⟩) false 999).call sampleServices (sampleClaimed ⟨8⟩ 1000) =
        (false, sampleClaimed ⟨8⟩ 1000) ∧
      sampleRefresh.call sampleServices (sampleClaimed ⟨8⟩ 1000) = (true, sampleRefreshed) ∧
      (failure (sampleJob ⟨8⟩) false 1002).call sampleServices sampleRefreshed =
        (false, sampleRefreshed) := by
  refine ⟨?_, rfl, ?_⟩
  · exact (claims_exclusive run_sampleReclaim).2.2.1 _ _ (.head _) rfl
      (.inl ⟨[], _, rfl, _, .head _, rfl, rfl⟩)
  · exact (claims_exclusive run_sampleRefresh).2.2.1 _ _ (.tail _ (.head _)) rfl
      (.inr (.inr ⟨_, rfl, by decide⟩))

end CpaGateway.Grok.Exclusivity
