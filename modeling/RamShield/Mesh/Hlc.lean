import Mathlib.Data.Prod.Lex
import RamShield.Foundation.Run
import RamShield.Mesh.Aworset

/-! # Laws of the hybrid logical clock

A tick takes the maximum of the wall clock, a remote stamp and the clock itself. The
stamps that a clock returns increase strictly, whatever the wall clock does. A tick passes
the remote stamp only if the remote time is not ahead of both the clock and the wall clock:
otherwise the logical counter restarts at zero at the remote time itself.
-/

namespace RamShield

open Foundation

abbrev HlcStamp := Nat ×ₗ Nat

/-- A call of `tick`, with the wall clock it reads. -/
structure HlcCall where
  wallMs : Nat
  remoteMs : Nat
  remoteSeq : Nat

def HlcCall.remote (call : HlcCall) : HlcStamp := toLex (call.remoteMs, call.remoteSeq)

namespace Hlc

/-- What `tick` returns. -/
def stamp (hlc : Hlc) : HlcStamp := toLex (hlc.physMs, hlc.seq)

def answer (hlc : Hlc) (call : HlcCall) : Hlc := hlc.tick call.wallMs call.remoteMs call.remoteSeq

def Unsaturated (hlc : Hlc) : Prop := hlc.seq < u32Max

def returned : Hlc → List HlcCall → List HlcStamp
  | _, [] => []
  | hlc, call :: calls => (hlc.answer call).stamp :: returned (hlc.answer call) calls

def Reached (hlc : Hlc) (call : HlcCall) : Prop :=
  call.remoteMs ≤ hlc.physMs ∨ call.remoteMs < call.wallMs

variable {hlc : Hlc} {call : HlcCall}

/-- A tick is tied to clock and remote, to the clock, or moves on. -/
lemma answer_cases (hroom : (hlc.answer call).Unsaturated) :
    (call.wallMs ≤ hlc.physMs ∧ call.remoteMs = hlc.physMs ∧
        (hlc.answer call).physMs = hlc.physMs ∧
        (hlc.answer call).seq = max hlc.seq call.remoteSeq + 1) ∨
      (call.wallMs ≤ hlc.physMs ∧ call.remoteMs < hlc.physMs ∧
        (hlc.answer call).physMs = hlc.physMs ∧ (hlc.answer call).seq = hlc.seq + 1) ∨
      hlc.physMs < max call.wallMs call.remoteMs ∧
        (hlc.answer call).physMs = max call.wallMs call.remoteMs ∧ (hlc.answer call).seq = 0 := by
  have hphys : (hlc.answer call).physMs = max (max call.wallMs call.remoteMs) hlc.physMs := rfl
  have hseq : (hlc.answer call).seq =
      if (hlc.answer call).physMs = hlc.physMs ∧ (hlc.answer call).physMs = call.remoteMs then
        min (max hlc.seq call.remoteSeq + 1) u32Max
      else if (hlc.answer call).physMs = hlc.physMs then min (hlc.seq + 1) u32Max
      else 0 := rfl
  rw [Unsaturated] at hroom
  split at hseq
  next hboth => exact .inl ⟨by omega, by omega, hboth.1, by omega⟩
  next hnot =>
    split at hseq
    next hclock => exact .inr (.inl ⟨by omega, by omega, hclock, by omega⟩)
    next hmoved => exact .inr (.inr ⟨by omega, by omega, hseq⟩)

/-- A tick passes the clock. -/
lemma stamp_lt_answer (hroom : (hlc.answer call).Unsaturated) :
    hlc.stamp < (hlc.answer call).stamp := by
  rw [stamp, stamp, Prod.Lex.toLex_lt_toLex]
  rcases answer_cases hroom with hboth | hclock | hmoved
  · omega
  · omega
  · omega

lemma remote_lt_answer_iff (hroom : (hlc.answer call).Unsaturated) :
    call.remote < (hlc.answer call).stamp ↔ hlc.Reached call := by
  rw [stamp, HlcCall.remote, Prod.Lex.toLex_lt_toLex, Reached]
  rcases answer_cases hroom with hboth | hclock | hmoved
  · omega
  · omega
  · omega

lemma stamp_lt_of_mem_returned {calls : List HlcCall}
    (hroom : Machine.Along answer Unsaturated hlc calls) {later : HlcStamp}
    (hlater : later ∈ hlc.returned calls) : hlc.stamp < later := by
  induction calls generalizing hlc with
  | nil => cases hlater
  | cons call calls ih =>
    have htick := stamp_lt_answer hroom.2.start
    rcases List.mem_cons.mp hlater with rfl | hlater
    · exact htick
    · exact htick.trans (ih hroom.2 hlater)

/-- The stamps of a run increase strictly. -/
lemma pairwise_returned {calls : List HlcCall}
    (hroom : Machine.Along answer Unsaturated hlc calls) :
    (hlc.returned calls).Pairwise (· < ·) := by
  induction calls generalizing hlc with
  | nil => exact List.Pairwise.nil
  | cons call calls ih =>
    exact List.pairwise_cons.mpr
      ⟨fun _ hlater => stamp_lt_of_mem_returned hroom.2 hlater, ih hroom.2⟩

/-- Along every sequence of calls, as long as the logical counter stays below its limit,
the returned stamps increase strictly; and every one passes the remote stamp of its call
exactly if every remote time was reached before. -/
theorem returned_laws {hlc : Hlc} {calls : List HlcCall}
    (hroom : Machine.Along answer Unsaturated hlc calls) :
    (hlc.returned calls).Pairwise (· < ·) ∧
      (Machine.Respects answer (fun hlc call => call.remote < (hlc.answer call).stamp) hlc calls ↔
        Machine.Respects answer Reached hlc calls) := by
  refine ⟨pairwise_returned hroom, ?_⟩
  induction calls generalizing hlc with
  | nil => exact Iff.rfl
  | cons call calls ih => exact and_congr (remote_lt_answer_iff hroom.2.start) (ih hroom.2)

/-- The wall clock goes back, and the second remote stamp is tied with the clock. -/
theorem returned_laws_tied :
    (new.returned [⟨7, 0, 0⟩, ⟨5, 7, 9⟩, ⟨5, 0, 0⟩]).Pairwise (· < ·) ∧
      Machine.Respects answer (fun hlc call => call.remote < (hlc.answer call).stamp) new
        [⟨7, 0, 0⟩, ⟨5, 7, 9⟩, ⟨5, 0, 0⟩] := by
  have hroom : Machine.Along answer Unsaturated new [⟨7, 0, 0⟩, ⟨5, 7, 9⟩, ⟨5, 0, 0⟩] := by
    refine ⟨?_, ?_, ?_, ?_⟩
    all_goals
      change _ < u32Max
      decide
  refine ⟨(returned_laws hroom).1, (returned_laws hroom).2.mpr ?_⟩
  refine ⟨?_, ?_, ?_, trivial⟩
  all_goals
    unfold Reached
    decide

/-- A remote stamp from the future: the answer is at its time with the counter at zero. -/
theorem remote_ahead_not_passed :
    (new.answer ⟨5, 9, 7⟩).stamp = toLex (9, 0) ∧
      ¬HlcCall.remote ⟨5, 9, 7⟩ < (new.answer ⟨5, 9, 7⟩).stamp := by
  decide

end Hlc

end RamShield
