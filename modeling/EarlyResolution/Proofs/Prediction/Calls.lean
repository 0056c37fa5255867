import EarlyResolution.Proofs.Prediction.Queues

/-!
# Calls of the predictor

The predictor's operations as data, so that statements can range over every
order in which they may be called.  Only updates change the table, and no call
changes the switch, the threshold or the number of thread slots.
-/

namespace EarlyResolution

/-- A committed value: the address of the load and what it read. -/
abbrev Update := UInt64 × UInt64

namespace Predictor

inductive Call where
  | predict (pc : UInt64)
  | dispatch (seq pc : UInt64) (tid : ThreadId)
  | record (load : InFlight)
  | validate (seq actual : UInt64)
  | squash (point : UInt64) (tid : ThreadId)
  | retire (seq : UInt64) (tid : ThreadId)
  | update (pc value : UInt64)
  deriving DecidableEq, Repr

def perform (p : Predictor) : Call → Predictor
  | .predict pc => (p.predict pc).2
  | .dispatch seq pc tid => (p.dispatch seq pc tid).2
  | .record load => (p.record load).2
  | .validate seq actual => (p.validate seq actual).2
  | .squash point tid => p.squash point tid
  | .retire seq tid => p.retire seq tid
  | .update pc value => p.update pc value

def performAll (p : Predictor) (calls : List Call) : Predictor :=
  calls.foldl perform p

def Call.update? : Call → Option Update
  | .update pc value => some (pc, value)
  | _ => none

/-- A call that is no update changes only the records in flight and the counters. -/
theorem perform_eq_of_no_update (p : Predictor) {call : Call} (plain : call.update? = none) :
    ∃ histories counters, p.perform call = { p with histories, counters } ∧
      histories.length = p.histories.length := by
  -- Four of the operations change one history at most.
  have modified (q : Predictor) (tid : ThreadId) (change : History → History) :
      ∃ histories, q.modifyHistory tid change = { q with histories } ∧
        histories.length = q.histories.length :=
    ⟨_, rfl, List.length_modify _ _ _⟩
  cases call with
  | predict pc => exact ⟨p.histories, _, rfl, rfl⟩
  | dispatch seq pc tid =>
      by_cases inside : tid.toNat < p.threads
      · rw [perform, dispatch_of_lt inside]
        cases (p.lookup pc).value? with
        | none => exact ⟨p.histories, _, rfl, rfl⟩
        | some value =>
            obtain ⟨histories, same, length⟩ := modified (p.predict pc).2 tid
              (·.push (recordOf seq pc tid value))
            exact ⟨histories, _, same, length⟩
      · rw [perform, dispatch_of_le (Nat.not_lt.mp inside)]
        exact ⟨p.histories, p.counters, rfl, rfl⟩
  | record load =>
      rw [perform, record]
      split
      · obtain ⟨histories, same, length⟩ := modified p load.tid (·.push load)
        exact ⟨histories, p.counters, same, length⟩
      · exact ⟨p.histories, p.counters, rfl, rfl⟩
  | validate seq actual => exact ⟨p.histories, _, rfl, rfl⟩
  | squash point tid =>
      obtain ⟨histories, same, length⟩ := modified p tid (·.squash point)
      exact ⟨histories, p.counters, same, length⟩
  | retire seq tid =>
      obtain ⟨histories, same, length⟩ := modified p tid (·.retire seq)
      exact ⟨histories, p.counters, same, length⟩
  | update pc value => cases plain

end Predictor

def Table.trainAll (table : Table) (updates : List Update) : Table :=
  updates.foldl (fun table update => table.train update.1 update.2) table

namespace Predictor

/-- Behind any calls the table is that of the updates among them. -/
theorem performAll_eq (p : Predictor) (calls : List Call) :
    ∃ histories counters,
      p.performAll calls =
        { p with table := p.table.trainAll (calls.filterMap Call.update?), histories, counters } ∧
      histories.length = p.histories.length := by
  induction calls generalizing p with
  | nil => exact ⟨p.histories, p.counters, rfl, rfl⟩
  | cons call calls ih =>
      obtain ⟨histories, counters, rest, length⟩ := ih (p.perform call)
      cases update : call.update? with
      | none =>
          obtain ⟨_, _, first, same⟩ := p.perform_eq_of_no_update update
          refine ⟨histories, counters, ?_, ?_⟩
          · rw [List.filterMap_cons_none update]
            exact rest.trans (by rw [first])
          · rw [length, first]
            exact same
      | some trained =>
          cases call with
          | update pc value =>
              cases update
              exact ⟨histories, counters, rest, length⟩
          | _ => cases update

end Predictor

end EarlyResolution
