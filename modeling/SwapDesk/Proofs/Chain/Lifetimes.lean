import Mathlib.Data.List.Induction
import SwapDesk.Chain.Registry

/-!
How long contexts live. After any history of a registry, what it holds and what is cancelled can be
told from the history alone.
-/

namespace SwapDesk

/-- A thing that is done to a registry. A context can be shut down through the registry that holds
it, and through its token also before it is inserted. -/
inductive RegistryEvent where
  | issue
  | insert (context : ChainContext)
  | shutDownContext (chain : UInt64)
  | cancel (token : CancelToken)
  | cancelHandle
  | shutDown

/-! ## One event -/

namespace Cancellations

variable {c : Cancellations} {t : CancelToken}

theorem holds_iff : c.holds t = true ↔ t.underRoot = true ∧ c.root = true ∨ t ∈ c.tokens := by
  simp [holds]

theorem root_foldl_cancel (contexts : List ChainContext) (c : Cancellations) :
    (contexts.foldl (fun c context => c.cancel context.token) c).root = c.root := by
  induction contexts generalizing c with
  | nil => rfl
  | cons context contexts ih => exact ih (c.cancel context.token)

theorem mem_tokens_foldl_cancel (contexts : List ChainContext) (c : Cancellations) :
    t ∈ (contexts.foldl (fun c context => c.cancel context.token) c).tokens ↔
      t ∈ contexts.map ChainContext.token ∨ t ∈ c.tokens := by
  induction contexts generalizing c with
  | nil => simp
  | cons context contexts ih =>
      rw [List.foldl_cons, ih, cancel, List.map_cons, List.mem_cons, List.mem_cons]
      exact or_left_comm.trans or_assoc.symm

end Cancellations

namespace ChainRegistry

theorem find?_put (context : ChainContext) (contexts : List ChainContext) (chain : UInt64) :
    (put context contexts).find? (fun c => c.chainId == chain) =
      if context.chainId = chain then some context
      else contexts.find? fun c => c.chainId == chain := by
  induction contexts with
  | nil => by_cases here : context.chainId = chain <;> simp [put, here]
  | cons c contexts ih =>
      rw [put]
      split
      · by_cases here : context.chainId = chain <;> simp [here]
      · split
        · rename_i same
          by_cases here : context.chainId = chain
          · simp [here]
          · simp [here, ← same]
        · rename_i different
          rw [List.find?_cons, ih]
          by_cases here : context.chainId = chain
          · have passed : (c.chainId == chain) = false := by
              rw [beq_eq_false_iff_ne, ← here]
              exact Ne.symm different
            rw [passed, if_pos here, if_pos here]
          · rw [if_neg here, if_neg here, List.find?_cons]

theorem mem_put {context c : ChainContext} {contexts : List ChainContext}
    (member : c ∈ put context contexts) : c = context ∨ c ∈ contexts := by
  induction contexts with
  | nil => exact .inl (List.mem_singleton.mp member)
  | cons first contexts ih =>
      rw [put] at member
      split at member
      · exact List.mem_cons.mp member
      · split at member
        · exact (List.mem_cons.mp member).imp_right (List.mem_cons_of_mem _)
        · rcases List.mem_cons.mp member with rfl | later
          · exact .inr List.mem_cons_self
          · exact (ih later).imp_right (List.mem_cons_of_mem _)

theorem pairwise_put (context : ChainContext) {contexts : List ChainContext}
    (ascending : contexts.Pairwise fun a b => a.chainId < b.chainId) :
    (put context contexts).Pairwise fun a b => a.chainId < b.chainId := by
  induction ascending with
  | nil => exact List.pairwise_singleton _ _
  | @cons c contexts least ascending ih =>
      rw [put]
      split
      · rename_i before
        refine .cons (fun other member => ?_) (.cons least ascending)
        rcases List.mem_cons.mp member with rfl | later
        · exact before
        · exact UInt64.lt_trans before (least other later)
      · split
        · rename_i same
          exact .cons (fun other member => same ▸ least other member) ascending
        · rename_i notBefore different
          refine .cons (fun other member => ?_) ih
          rcases mem_put member with rfl | later
          · rw [UInt64.lt_iff_toNat_lt] at notBefore ⊢
            rw [← UInt64.toNat_inj] at different
            omega
          · exact least other later

theorem find?_insert (r : ChainRegistry) (context : ChainContext) (chain : UInt64) :
    (r.insert context).find? chain =
      if context.chainId = chain then some context else r.find? chain :=
  find?_put ..

theorem get_eq_ok_iff {r : ChainRegistry} {chain : UInt64} {context : ChainContext} :
    r.get chain = .ok context ↔ r.find? chain = some context := by
  unfold get
  cases r.find? chain <;> simp

theorem get_insert (r : ChainRegistry) (context : ChainContext) :
    (r.insert context).get context.chainId = .ok context := by
  rw [get_eq_ok_iff, find?_insert, if_pos rfl]

theorem mem_chainIds_iff {r : ChainRegistry} {chain : UInt64} :
    chain ∈ r.chainIds ↔ ∃ context, r.find? chain = some context := by
  rw [chainIds, List.mem_map, ← Option.isSome_iff_exists, find?, List.find?_isSome]
  simp

theorem mem_of_find? {r : ChainRegistry} {chain : UInt64} {context : ChainContext}
    (found : r.find? chain = some context) : context ∈ r.contexts ∧ context.chainId = chain :=
  ⟨List.mem_of_find?_eq_some found, by simpa using List.find?_some found⟩

def Ascending (r : ChainRegistry) : Prop :=
  r.contexts.Pairwise fun a b => a.chainId < b.chainId

theorem Ascending.find?_eq {r : ChainRegistry} (ascending : r.Ascending) {context : ChainContext}
    (member : context ∈ r.contexts) : r.find? context.chainId = some context := by
  rw [Ascending] at ascending
  rw [find?]
  generalize r.contexts = contexts at ascending member
  induction contexts with
  | nil => exact nomatch member
  | cons c contexts ih =>
      obtain ⟨least, ascending⟩ := List.pairwise_cons.mp ascending
      rcases List.mem_cons.mp member with rfl | later
      · exact List.find?_cons_of_pos (beq_self_eq_true _)
      · rw [List.find?_cons_of_neg, ih ascending later]
        rw [beq_iff_eq]
        exact UInt64.ne_of_lt (least context later)

def after (r : ChainRegistry) : RegistryEvent → ChainRegistry
  | .issue => r.childToken.2
  | .insert context => r.insert context
  | .shutDownContext chain => (r.shutDownContext chain).toOption.getD r
  | .cancel token => r.cancel token
  | .cancelHandle => r.cancelHandle
  | .shutDown => r.shutDown

def run (history : List RegistryEvent) : ChainRegistry :=
  history.foldl after {}

theorem run_append (history later : List RegistryEvent) :
    run (history ++ later) = later.foldl after (run history) :=
  List.foldl_append

theorem run_concat (history : List RegistryEvent) (event : RegistryEvent) :
    run (history ++ [event]) = (run history).after event :=
  run_append history [event]

section After

variable {r : ChainRegistry} {event : RegistryEvent} {chain : UInt64} {context : ChainContext}
variable {t : CancelToken}

theorem after_shutDownContext_of_none (absent : r.find? chain = none) :
    r.after (.shutDownContext chain) = r := by
  simp [after, shutDownContext, get, absent, Except.map, Except.toOption]

theorem after_shutDownContext_of_some (found : r.find? chain = some context) :
    r.after (.shutDownContext chain) = r.cancel context.token := by
  simp [after, shutDownContext, get, found, Except.map, Except.toOption]

theorem contexts_after_shutDownContext (r : ChainRegistry) (chain : UInt64) :
    (r.after (.shutDownContext chain)).contexts = r.contexts := by
  cases found : r.find? chain with
  | none => rw [after_shutDownContext_of_none found]
  | some => rw [after_shutDownContext_of_some found, cancel]

theorem Ascending.after (ascending : r.Ascending) (event : RegistryEvent) :
    (r.after event).Ascending := by
  cases event with
  | issue | cancel | cancelHandle => exact ascending
  | insert context => exact pairwise_put context ascending
  | shutDownContext chain => rwa [Ascending, contexts_after_shutDownContext]
  | shutDown => exact List.Pairwise.nil

theorem find?_after :
    (r.after event).find? chain = some context ↔
      event = .insert context ∧ context.chainId = chain ∨
        r.find? chain = some context ∧ event ≠ .shutDown ∧
          ∀ other, event = .insert other → other.chainId ≠ chain := by
  cases event with
  | issue | cancel | cancelHandle => simp [after, find?, childToken, cancel, cancelHandle]
  | shutDownContext => simp [find?, contexts_after_shutDownContext]
  | shutDown => simp [after, find?, shutDown]
  | insert inserted =>
      rw [after, find?_insert]
      by_cases here : inserted.chainId = chain
      · simp only [if_pos here, Option.some.injEq, RegistryEvent.insert.injEq]
        grind
      · simp only [if_neg here, RegistryEvent.insert.injEq]
        grind

theorem root_after :
    (r.after event).cancelled.root = true ↔
      r.cancelled.root = true ∨ event = .cancelHandle ∨ event = .shutDown := by
  cases event with
  | issue | cancel | cancelHandle =>
      simp [after, childToken, cancel, Cancellations.cancel, cancelHandle, Cancellations.cancelRoot]
  | shutDownContext chain =>
      cases found : r.find? chain with
      | none => simp [after_shutDownContext_of_none found]
      | some => simp [after_shutDownContext_of_some found, cancel, Cancellations.cancel]
  | shutDown =>
      simp [after, shutDown, Cancellations.root_foldl_cancel, Cancellations.cancelRoot]
  | insert context =>
      cases found : r.find? context.chainId <;>
        simp [after, insert, found, Cancellations.cancel]

theorem issued_le_after (r : ChainRegistry) (event : RegistryEvent) :
    r.issued ≤ (r.after event).issued := by
  cases event with
  | issue => exact Nat.le_succ _
  | insert | cancel | cancelHandle | shutDown => exact Nat.le_refl _
  | shutDownContext chain =>
      cases found : r.find? chain with
      | none => simp [after_shutDownContext_of_none found]
      | some => simp [after_shutDownContext_of_some found, cancel]

theorem issued_le_foldl_after (later : List RegistryEvent) (r : ChainRegistry) :
    r.issued ≤ (later.foldl after r).issued := by
  induction later generalizing r with
  | nil => exact Nat.le_refl _
  | cons event later ih => exact Nat.le_trans (issued_le_after r event) (ih _)

theorem mem_tokens_after (ascending : r.Ascending) :
    t ∈ (r.after event).cancelled.tokens ↔
      t ∈ r.cancelled.tokens ∨ event = .cancel t ∨
        ∃ chain context, r.find? chain = some context ∧ context.token = t ∧
          (event = .shutDownContext chain ∨ event = .shutDown ∨
            ∃ other, event = .insert other ∧ other.chainId = chain) := by
  cases event with
  | issue | cancelHandle => simp [after, childToken, cancelHandle, Cancellations.cancelRoot]
  | cancel => simp [after, cancel, Cancellations.cancel, or_comm, eq_comm]
  | shutDown =>
      simp only [after, shutDown, Cancellations.mem_tokens_foldl_cancel, Cancellations.cancelRoot,
        List.mem_map, reduceCtorEq, false_and, exists_false, true_or, or_true, and_true, false_or,
        or_comm (a := ∃ _, _)]
      refine or_congr_right ⟨?_, ?_⟩
      · rintro ⟨context, member, on⟩
        exact ⟨_, context, ascending.find?_eq member, on⟩
      · rintro ⟨chain, context, found, on⟩
        exact ⟨context, (mem_of_find? found).1, on⟩
  | shutDownContext chain =>
      cases found : r.find? chain with
      | none => simp [after_shutDownContext_of_none found, found]
      | some previous =>
          simp [after_shutDownContext_of_some found, found, cancel, Cancellations.cancel, or_comm,
            eq_comm]
  | insert inserted =>
      cases found : r.find? inserted.chainId <;>
        simp [after, insert, found, Cancellations.cancel, or_comm, eq_comm]

end After

end ChainRegistry

/-! ## Histories -/

namespace RegistryEvent

open ChainRegistry

variable {history before later : List RegistryEvent} {event : RegistryEvent}
variable {context other : ChainContext} {token : CancelToken}

/-- The context was inserted, and since then its chain has got no other one and the registry has not
been shut down. -/
def Holds (history : List RegistryEvent) (context : ChainContext) : Prop :=
  ∃ before later, history = before ++ .insert context :: later ∧ .shutDown ∉ later ∧
    ∀ other, .insert other ∈ later → other.chainId ≠ context.chainId

def LetGo (history : List RegistryEvent) (context : ChainContext) : Prop :=
  .insert context ∈ history ∧ ¬Holds history context

/-- The context was shut down by itself, through its token or by the registry that held it. -/
def ShutDownAlone (history : List RegistryEvent) (context : ChainContext) : Prop :=
  .cancel context.token ∈ history ∨
    ∃ before later, history = before ++ .shutDownContext context.chainId :: later ∧
      Holds before context

def RootCancelled (history : List RegistryEvent) : Prop :=
  .cancelHandle ∈ history ∨ .shutDown ∈ history

def Issued (history : List RegistryEvent) (token : CancelToken) : Prop :=
  ∃ before later, history = before ++ .issue :: later ∧ token = (run before).childToken.1

/-- Every context is built on a token that was issued before, and no two on the same. -/
def Fresh (history : List RegistryEvent) : Prop :=
  ∀ before context later, history = before ++ .insert context :: later →
    Issued before context.token ∧ ∀ other, .insert other ∈ before → other.token ≠ context.token

def Concerns (chain : UInt64) : RegistryEvent → Prop
  | .insert context => context.chainId = chain
  | .shutDownContext other => other = chain
  | _ => False

theorem concat_eq_iff {inner : RegistryEvent} :
    history ++ [event] = before ++ inner :: later ↔
      (history = before ∧ event = inner ∧ later = []) ∨
        ∃ rest, later = rest ++ [event] ∧ history = before ++ inner :: rest := by
  constructor
  · intro split
    rcases List.eq_nil_or_concat later with rfl | ⟨rest, last, rfl⟩
    · obtain ⟨same, last⟩ := List.append_inj' split rfl
      cases last
      exact .inl ⟨same, rfl, rfl⟩
    · rw [List.concat_eq_append, ← List.cons_append, ← List.append_assoc] at split
      obtain ⟨same, last⟩ := List.append_inj' split rfl
      cases last
      exact .inr ⟨rest, List.concat_eq_append, same⟩
  · rintro (⟨rfl, rfl, rfl⟩ | ⟨rest, rfl, rfl⟩)
    · rfl
    · simp

theorem holds_concat_iff :
    Holds (history ++ [event]) context ↔ event = .insert context ∨
      Holds history context ∧ event ≠ .shutDown ∧
        ∀ other, event = .insert other → other.chainId ≠ context.chainId := by
  constructor
  · rintro ⟨before, later, split, kept, alone⟩
    rcases concat_eq_iff.mp split with ⟨_, rfl, _⟩ | ⟨rest, rfl, rfl⟩
    · exact .inl rfl
    · rw [List.mem_append, not_or, List.mem_singleton] at kept
      refine .inr ⟨⟨before, rest, rfl, kept.1, ?_⟩, Ne.symm kept.2, ?_⟩
      · exact fun other member => alone other (List.mem_append_left _ member)
      · rintro other rfl
        exact alone other (List.mem_append_right _ List.mem_cons_self)
  · rintro (rfl | ⟨⟨before, later, rfl, kept, alone⟩, notShutDown, elsewhere⟩)
    · exact ⟨history, [], rfl, nofun, nofun⟩
    · refine ⟨before, later ++ [event], by simp, ?_, ?_⟩
      · rw [List.mem_append, not_or, List.mem_singleton]
        exact ⟨kept, Ne.symm notShutDown⟩
      · intro other member
        rcases List.mem_append.mp member with earlier | last
        · exact alone other earlier
        · exact elsewhere other (List.mem_singleton.mp last).symm

theorem shutDownAlone_concat_iff :
    ShutDownAlone (history ++ [event]) context ↔ ShutDownAlone history context ∨
      event = .cancel context.token ∨
        event = .shutDownContext context.chainId ∧ Holds history context := by
  constructor
  · rintro (through | ⟨before, later, split, held⟩)
    · rcases List.mem_append.mp through with earlier | last
      · exact .inl (.inl earlier)
      · exact .inr (.inl (List.mem_singleton.mp last).symm)
    · rcases concat_eq_iff.mp split with ⟨rfl, rfl, _⟩ | ⟨rest, rfl, rfl⟩
      · exact .inr (.inr ⟨rfl, held⟩)
      · exact .inl (.inr ⟨before, rest, rfl, held⟩)
  · rintro ((through | ⟨before, later, rfl, held⟩) | rfl | ⟨rfl, held⟩)
    · exact .inl (List.mem_append_left _ through)
    · exact .inr ⟨before, later ++ [event], by simp, held⟩
    · exact .inl (List.mem_append_right _ List.mem_cons_self)
    · exact .inr ⟨history, [], rfl, held⟩

theorem rootCancelled_concat_iff :
    RootCancelled (history ++ [event]) ↔
      RootCancelled history ∨ event = .cancelHandle ∨ event = .shutDown := by
  simp only [RootCancelled, List.mem_append, List.mem_singleton, eq_comm (a := event)]
  exact or_or_or_comm

theorem RootCancelled.append (cancelled : RootCancelled history) (later : List RegistryEvent) :
    RootCancelled (history ++ later) :=
  cancelled.imp (List.mem_append_left _) (List.mem_append_left _)

theorem Holds.inserted (held : Holds history context) : .insert context ∈ history := by
  obtain ⟨before, later, rfl, _⟩ := held
  simp

theorem Issued.underRoot (issued : Issued history token) : token.underRoot = true := by
  obtain ⟨before, later, _, rfl⟩ := issued
  rfl

theorem Issued.append (issued : Issued history token) (later : List RegistryEvent) :
    Issued (history ++ later) token := by
  obtain ⟨before, rest, rfl, issued⟩ := issued
  exact ⟨before, rest ++ later, by simp, issued⟩

theorem Issued.lt (issued : Issued history token) : token.id < (run history).issued := by
  obtain ⟨before, later, rfl, rfl⟩ := issued
  rw [run_append, List.foldl_cons]
  exact issued_le_foldl_after later (run before).childToken.2

theorem fresh_nil : Fresh [] := by
  intro before context later split
  exact absurd split (by simp)

theorem fresh_concat_iff :
    Fresh (history ++ [event]) ↔ Fresh history ∧ ∀ context, event = .insert context →
      Issued history context.token ∧
        ∀ other, .insert other ∈ history → other.token ≠ context.token := by
  constructor
  · intro fresh
    refine ⟨?_, ?_⟩
    · rintro before context later rfl
      exact fresh before context (later ++ [event]) (by simp)
    · rintro context rfl
      exact fresh history context [] rfl
  · rintro ⟨fresh, last⟩ before context later split
    rcases concat_eq_iff.mp split with ⟨rfl, same, _⟩ | ⟨rest, _, earlier⟩
    · exact last context same
    · exact fresh before context rest earlier

theorem Fresh.issued (fresh : Fresh history) (inserted : .insert context ∈ history) :
    Issued history context.token := by
  obtain ⟨before, later, rfl⟩ := List.append_of_mem inserted
  exact (fresh before context later rfl).1.append _

theorem Fresh.insert_issued (fresh : Fresh history)
    (on : context.token = (run history).childToken.1) :
    Fresh (history ++ [.issue] ++ [.insert context]) := by
  have issuedOnly : Fresh (history ++ [.issue]) := fresh_concat_iff.mpr ⟨fresh, nofun⟩
  refine fresh_concat_iff.mpr ⟨issuedOnly, ?_⟩
  rintro _ ⟨⟩
  refine ⟨⟨history, [], rfl, on⟩, fun other inserted same => ?_⟩
  rw [List.mem_append, List.mem_singleton, or_iff_left nofun] at inserted
  have earlier := (fresh.issued inserted).lt
  rw [same, on] at earlier
  exact Nat.lt_irrefl _ earlier

theorem Fresh.eq_of_token (fresh : Fresh history) (first : .insert context ∈ history)
    (second : .insert other ∈ history) (same : context.token = other.token) :
    context = other := by
  induction history using List.reverseRecOn with
  | nil => exact nomatch first
  | append_singleton history event ih =>
      obtain ⟨fresh, last⟩ := fresh_concat_iff.mp fresh
      rw [List.mem_append, List.mem_singleton] at first second
      rcases first with first | rfl
      · rcases second with second | rfl
        · exact ih fresh first second
        · exact absurd same ((last other rfl).2 context first)
      · rcases second with second | same'
        · exact absurd same.symm ((last context rfl).2 other second)
        · cases same'
          rfl

theorem letGo_concat_iff (fresh : Fresh (history ++ [event])) :
    LetGo (history ++ [event]) context ↔ LetGo history context ∨
      Holds history context ∧ (event = .shutDown ∨
        ∃ other, event = .insert other ∧ other.chainId = context.chainId) := by
  -- only a context that comes in once cannot be held again after it was let go of
  have once : .insert context ∈ history → event ≠ .insert context := by
    intro inserted same
    exact ((fresh_concat_iff.mp fresh).2 context same).2 context inserted rfl
  rw [LetGo, LetGo, holds_concat_iff, List.mem_append, List.mem_singleton]
  constructor
  · rintro ⟨inserted | rfl, notHeld⟩
    · by_cases held : Holds history context
      · grind
      · exact .inl ⟨inserted, held⟩
    · exact absurd (.inl rfl) notHeld
  · rintro (⟨inserted, notHeld⟩ | ⟨held, ends⟩)
    · exact ⟨.inl inserted, not_or.mpr ⟨once inserted, fun still => notHeld still.1⟩⟩
    · have inserted := held.inserted
      refine ⟨.inl inserted, not_or.mpr ⟨once inserted, ?_⟩⟩
      rintro ⟨_, notShutDown, elsewhere⟩
      rcases ends with shutDown | ⟨other, replaced, same⟩
      · exact notShutDown shutDown
      · exact elsewhere other replaced same

end RegistryEvent

/-! ## Runs -/

namespace ChainRegistry

open RegistryEvent

variable {history : List RegistryEvent} {chain : UInt64} {context : ChainContext}
variable {token : CancelToken}

theorem ascending_run (history : List RegistryEvent) : (run history).Ascending := by
  induction history using List.reverseRecOn with
  | nil => exact List.Pairwise.nil
  | append_singleton history event ih =>
      rw [run_concat]
      exact ih.after event

theorem find?_run :
    (run history).find? chain = some context ↔
      Holds history context ∧ context.chainId = chain := by
  induction history using List.reverseRecOn with
  | nil => simp [run, find?, Holds]
  | append_singleton history event ih =>
      rw [run_concat, find?_after, ih, holds_concat_iff]
      grind

theorem root_run : (run history).cancelled.root = true ↔ RootCancelled history := by
  induction history using List.reverseRecOn with
  | nil => simp [run, RootCancelled]
  | append_singleton history event ih =>
      rw [run_concat, root_after, ih, rootCancelled_concat_iff]

theorem mem_tokens_run (fresh : Fresh history) :
    token ∈ (run history).cancelled.tokens ↔ .cancel token ∈ history ∨
      ∃ context, context.token = token ∧
        (LetGo history context ∨ ShutDownAlone history context) := by
  induction history using List.reverseRecOn with
  | nil => simp [run, LetGo, ShutDownAlone]
  | append_singleton history event ih =>
      rw [run_concat, mem_tokens_after (ascending_run history), ih (fresh_concat_iff.mp fresh).1]
      simp only [letGo_concat_iff fresh, shutDownAlone_concat_iff, find?_run, List.mem_append,
        List.mem_singleton, eq_comm (b := event)]
      constructor
      · rintro ((through | ⟨c, on, gone⟩) | through | ⟨_, c, ⟨held, rfl⟩, on, ends⟩)
        · exact .inl (.inl through)
        · exact .inr ⟨c, on, gone.imp .inl .inl⟩
        · exact .inl (.inr through)
        · rcases ends with alone | replaced
          · exact .inr ⟨c, on, .inr (.inr (.inr ⟨alone, held⟩))⟩
          · exact .inr ⟨c, on, .inl (.inr ⟨held, replaced⟩)⟩
      · rintro ((through | through) | ⟨c, rfl, (gone | ⟨held, replaced⟩) |
          (alone | through | ⟨alone, held⟩)⟩)
        · exact .inl (.inl through)
        · exact .inr (.inl through)
        · exact .inl (.inr ⟨c, rfl, .inl gone⟩)
        · exact .inr (.inr ⟨_, c, ⟨held, rfl⟩, rfl, .inr replaced⟩)
        · exact .inl (.inr ⟨c, rfl, .inr alone⟩)
        · exact .inr (.inl through)
        · exact .inr (.inr ⟨_, c, ⟨held, rfl⟩, rfl, .inl alone⟩)

/-- A context is cancelled with the root, when it is let go of, and when it is shut down by itself;
nothing that becomes of another one touches it. -/
theorem isShutDown_run_iff (fresh : Fresh history) (inserted : .insert context ∈ history) :
    (run history).isShutDown context = true ↔
      RootCancelled history ∨ LetGo history context ∨ ShutDownAlone history context := by
  rw [isShutDown, Cancellations.holds_iff, root_run, mem_tokens_run fresh,
    (fresh.issued inserted).underRoot, and_iff_right rfl]
  refine or_congr_right ⟨?_, ?_⟩
  · rintro (through | ⟨other, same, gone | through | alone⟩)
    · exact .inr (.inl through)
    · exact .inl (fresh.eq_of_token gone.1 inserted same ▸ gone)
    · exact .inr (.inl (same ▸ through))
    · obtain ⟨before, later, rfl, held⟩ := alone
      have earlier := List.mem_append_left (.shutDownContext other.chainId :: later) held.inserted
      cases fresh.eq_of_token earlier inserted same
      exact .inr (.inr ⟨before, later, rfl, held⟩)
  · rintro (gone | alone)
    · exact .inr ⟨context, rfl, .inl gone⟩
    · exact .inr ⟨context, rfl, .inr alone⟩

theorem holds_after {r : ChainRegistry} (ascending : r.Ascending) (event : RegistryEvent)
    (cancelled : r.cancelled.holds token = true) :
    (r.after event).cancelled.holds token = true := by
  rw [Cancellations.holds_iff] at cancelled ⊢
  rw [root_after, mem_tokens_after ascending]
  exact cancelled.imp (And.imp_right .inl) .inl

theorem holds_run_append (cancelled : (run history).cancelled.holds token = true)
    (later : List RegistryEvent) : (run (history ++ later)).cancelled.holds token = true := by
  induction later using List.reverseRecOn with
  | nil => rwa [List.append_nil]
  | append_singleton later event ih =>
      rw [← List.append_assoc, run_concat]
      exact holds_after (ascending_run _) event ih

theorem holds_run_of_rootCancelled (cancelled : RootCancelled history)
    (issued : Issued history token) : (run history).cancelled.holds token = true :=
  Cancellations.holds_iff.mpr (.inl ⟨issued.underRoot, root_run.mpr cancelled⟩)

/-- What a history tells of the registry that it leaves. -/
structure Follows (history : List RegistryEvent) : Prop where
  get_ok : ∀ chain context, (run history).get chain = .ok context ↔
    Holds history context ∧ context.chainId = chain
  get_error : ∀ chain, (∀ context, Holds history context → context.chainId ≠ chain) →
    (run history).get chain = .error (.config (.unknownChain chain))
  ascending : (run history).chainIds.Pairwise (· < ·)
  mem_chainIds : ∀ chain, chain ∈ (run history).chainIds ↔
    ∃ context, Holds history context ∧ context.chainId = chain
  letGo : ∀ context, LetGo history context → ∀ later,
    (run (history ++ later)).isShutDown context = true
  held : ∀ context, Holds history context →
    ((run history).isShutDown context = true ↔
      ShutDownAlone history context ∨ RootCancelled history)
  elsewhere : ∀ context, Holds history context →
    ∀ chain ≠ context.chainId, ∀ event, Concerns chain event → Fresh (history ++ [event]) →
      Holds (history ++ [event]) context ∧
        (run (history ++ [event])).isShutDown context = (run history).isShutDown context
  replacement : ∀ context, Fresh (history ++ [.insert context]) →
    Holds (history ++ [.insert context]) context ∧
      ((run (history ++ [.insert context])).isShutDown context = true ↔
        .cancel context.token ∈ history ∨ RootCancelled history)
  root : RootCancelled history → ∀ later token, Issued (history ++ later) token →
    (run (history ++ later)).cancelled.holds token = true

theorem isShutDown_run_of_holds (fresh : Fresh history) (held : Holds history context) :
    (run history).isShutDown context = true ↔
      ShutDownAlone history context ∨ RootCancelled history := by
  rw [isShutDown_run_iff fresh held.inserted, LetGo, or_comm (a := RootCancelled _)]
  simp only [held, not_true_eq_false, and_false, false_or]

theorem isShutDown_run_concat_of_concerns {event : RegistryEvent}
    (fresh : Fresh (history ++ [event])) (held : Holds history context)
    (different : chain ≠ context.chainId) (concerns : Concerns chain event) :
    Holds (history ++ [event]) context ∧
      (run (history ++ [event])).isShutDown context = (run history).isShutDown context := by
  have still : Holds (history ++ [event]) context := by
    rw [holds_concat_iff]
    refine .inr ⟨held, ?_, ?_⟩
    · rintro rfl
      exact concerns
    · rintro other rfl
      exact fun same => different (concerns.symm.trans same)
  refine ⟨still, ?_⟩
  rw [Bool.eq_iff_iff, isShutDown_run_of_holds fresh still,
    isShutDown_run_of_holds (fresh_concat_iff.mp fresh).1 held, shutDownAlone_concat_iff,
    rootCancelled_concat_iff]
  cases event with
  | insert => simp
  | shutDownContext other =>
      have apart : other ≠ context.chainId := concerns.symm ▸ different
      simp [apart]
  | issue | cancel | cancelHandle | shutDown => exact concerns.elim

theorem isShutDown_run_insert (fresh : Fresh (history ++ [.insert context])) :
    Holds (history ++ [.insert context]) context ∧
      ((run (history ++ [.insert context])).isShutDown context = true ↔
        .cancel context.token ∈ history ∨ RootCancelled history) := by
  have held : Holds (history ++ [.insert context]) context := holds_concat_iff.mpr (.inl rfl)
  refine ⟨held, ?_⟩
  rw [isShutDown_run_of_holds fresh held, shutDownAlone_concat_iff, rootCancelled_concat_iff]
  have alone : ShutDownAlone history context ↔ .cancel context.token ∈ history := by
    refine or_iff_left ?_
    rintro ⟨before, later, rfl, earlier⟩
    exact ((fresh_concat_iff.mp fresh).2 context rfl).2 context
      (List.mem_append_left _ earlier.inserted) rfl
  simp [alone]

theorem lifecycle_of_fresh (history : List RegistryEvent) (fresh : Fresh history) :
    Follows history where
  get_ok chain context := get_eq_ok_iff.trans find?_run
  get_error chain nobody := by
    have absent : (run history).find? chain = none := by
      rw [Option.eq_none_iff_forall_not_mem]
      intro context found
      obtain ⟨held, here⟩ := find?_run.mp found
      exact nobody context held here
    rw [get, absent]
  ascending := List.pairwise_map.mpr (ascending_run history)
  mem_chainIds chain := by simp only [mem_chainIds_iff, find?_run]
  letGo context gone later := holds_run_append
    ((isShutDown_run_iff fresh gone.1).mpr (.inr (.inl gone))) later
  held context := isShutDown_run_of_holds fresh
  elsewhere context held chain different event concerns fresh :=
    isShutDown_run_concat_of_concerns fresh held different concerns
  replacement context := isShutDown_run_insert
  root cancelled later token := holds_run_of_rootCancelled (cancelled.append later)

end ChainRegistry

namespace Sample

def context (n : Nat) : ChainContext where
  chainId := 56
  clientChainId := 56
  tokens := {}
  source := .file "pools.json" none
  routers := {}
  batch := .ofNat 0
  policy := { timeoutMs := 180000, blocks := 0, pollMs := 3000 }
  gasBuffer := 0
  token := ⟨n, true⟩

def replacement : List RegistryEvent :=
  [] ++ [.issue] ++ [.insert (context 0)] ++ [.issue] ++ [.insert (context 1)]

end Sample

theorem ChainRegistry.lifecycle_of_replacement :
    RegistryEvent.Fresh Sample.replacement ∧ Follows Sample.replacement ∧
      (run Sample.replacement).isShutDown (Sample.context 0) = true ∧
      (run Sample.replacement).isShutDown (Sample.context 1) = false :=
  have fresh := (RegistryEvent.fresh_nil.insert_issued rfl).insert_issued rfl
  ⟨fresh, lifecycle_of_fresh _ fresh, by decide, by decide⟩

end SwapDesk
