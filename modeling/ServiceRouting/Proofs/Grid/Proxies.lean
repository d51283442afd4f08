import Mathlib.Data.List.Dedup
import ServiceRouting.Proofs.Cluster.Views
import ServiceRouting.Proxy.GridUse

/-!
# The proxies of a grid

What the proxies of a grid are after any use of it. Read `Pooled` and `Shares` first, the two halves
of the invariant: the tokens and slots of all proxies come from the steps so far, and the shared
proxies are those that requests were given. `proxies_accounted` says from them what a user of the
grid can rely on between two moments.
-/

namespace ServiceRouting

namespace Table

variable {α : Type} (t : Table α)

/-- Every key is listed once. -/
theorem nodup_keys : t.keys.Nodup :=
  List.pairwise_map.2 (t.increasing.imp fun {a b} hlt (heq : a.1 = b.1) =>
    String.lt_irrefl b.1 (heq ▸ hlt))

/-- The keys are what can be looked up. -/
theorem mem_keys_iff {key : String} : key ∈ t.keys ↔ ∃ value, t.get? key = some value := by
  simp only [keys, List.mem_map, Prod.exists, exists_and_right, exists_eq_right, mem_entries_iff]

end Table

namespace Tokens

variable {t : Tokens} {token : Token}

/-- A token counts as cancelled if it or one above it was cancelled. -/
theorem isCancelled_iff : t.isCancelled token = true ↔
    ∃ number ∈ token.number :: token.above, number ∈ t.cancelled := by
  simp only [isCancelled, List.any_eq_true, List.contains_iff_mem]

end Tokens

namespace ProxyPool

variable (pool : ProxyPool) (number : ProxyNumber)

/-- The proxy that was added is found under the next number, and the others as before. -/
theorem get?_addBelow (parent : Token) (c : Cluster) (name : ServiceName) (projection : Projection)
    (registry : RegistryNumber) (options : ProxyOptions) :
    (pool.addBelow parent c name projection registry options).1.get? number =
      if number = pool.proxies.length then
        some (.make c name projection registry options (pool.tokens.child parent).2)
      else pool.get? number := by
  rw [addBelow, add, get?, get?]
  rcases Nat.lt_trichotomy number pool.proxies.length with hlt | rfl | hgt
  · rw [List.getElem?_append_left hlt, if_neg (Nat.ne_of_lt hlt)]
  · rw [List.getElem?_concat_length, if_pos rfl]
  · rw [if_neg (Nat.ne_of_gt hgt), List.getElem?_eq_none (Nat.le_of_lt hgt)]
    exact List.getElem?_eq_none (by rw [List.length_append]; exact hgt)

/-- A proxy whose slot is set is found with it, and the others as before. -/
theorem get?_setSlot (other : ProxyNumber) (slot : StickySlot) :
    (pool.setSlot other slot).get? number =
      (pool.get? number).map fun p => if other = number then { p with slot } else p :=
  List.getElem?_modify ..

/-- A proxy that is found has one of the numbers given out. -/
theorem lt_length {pool : ProxyPool} {number : ProxyNumber} {p : Proxy}
    (h : pool.get? number = some p) : number < pool.proxies.length :=
  (List.getElem?_eq_some_iff.1 h).1

end ProxyPool

namespace GridUse

/-- The slot that a step sets for a proxy. -/
def Move.slot? (number : ProxyNumber) : Move → Option StickySlot
  | fill other slot => if other = number then some slot else none
  | _ => none

/-- The number of the token that a step cancels: that of a proxy is one more than the proxy's. -/
def Move.cancelled? : Move → Option Nat
  | cancel number => some (number + 1)
  | shutdown => some 0
  | look _ | enter .. | separate .. | fill .. => none

/-- Whether a step asks the grid for a proxy. -/
def Move.IsRequest : Move → Prop
  | look _ | enter .. | separate .. => True
  | fill .. | cancel _ | shutdown => False

/-- The slot that was set last for a proxy. -/
def lastSlot (history : List Move) (number : ProxyNumber) : StickySlot :=
  ((history.filterMap (·.slot? number)).getLast?).getD .empty

/-- The token of a proxy, which lies below the first of all. -/
def tokenOf (number : ProxyNumber) : Token := ⟨number + 1, [0]⟩

/-- A request was answered with a proxy. -/
def Answered (s : GridUse) (name : ServiceName) (number : ProxyNumber) : Prop :=
  ⟨name, some number⟩ ∈ s.requests

/-- The tokens and slots of the proxies come from the steps so far. -/
structure Pooled (history : List Move) (root : Token) (pool : ProxyPool) : Prop where
  root : root = ⟨0, []⟩
  issued : pool.tokens.issued = pool.proxies.length + 1
  token : ∀ number p, pool.get? number = some p → p.token = tokenOf number
  cancelled : pool.tokens.cancelled = (history.filterMap Move.cancelled?).reverse
  filled : ∀ number slot, .fill number slot ∈ history → number < pool.proxies.length
  slot : ∀ number p, pool.get? number = some p → p.slot = lastSlot history number

/-- The shared proxies are those that requests were given, each for its service. -/
structure Shares (s : GridUse) : Prop where
  shared : ∀ name number, s.grid.shared.get? name = some number ↔ s.Answered name number
  named : ∀ name number, s.Answered name number →
    ∃ p, s.grid.pool.get? number = some p ∧ p.name = name
  separate : ∀ number ∈ s.separate,
    (∃ p, s.grid.pool.get? number = some p) ∧ ∀ name, ¬ s.Answered name number

variable {s t : GridUse} {history : List Move} {move : Move} {root : Token} {pool : ProxyPool}

/-- The steps that can be taken, each with what it leads to. -/
inductive Taken (s : GridUse) : Move → GridUse → Prop where
  | look (name) :
      Taken s (.look name) { s with requests := s.requests ++ [⟨name, s.grid.shared.get? name⟩] }
  /-- Another request has made the proxy meanwhile. -/
  | meet (request c name number) :
      s.requests[request]? = some ⟨name, none⟩ → s.grid.shared.get? name = some number →
      Taken s (.enter request c) { s with requests := s.requests.set request ⟨name, some number⟩ }
  | make (request c name) :
      s.requests[request]? = some ⟨name, none⟩ → s.grid.shared.get? name = none →
      Taken s (.enter request c)
        { s with
          grid :=
            { (s.grid.proxyFor c name (.all []) s.grid.options).1 with
              shared := s.grid.shared.insert name s.grid.pool.proxies.length }
          requests := s.requests.set request ⟨name, some s.grid.pool.proxies.length⟩ }
  | separate (c name projection options) :
      Taken s (.separate c name projection options)
        { s with
          grid := (s.grid.proxyFor c name projection options).1
          separate := s.separate ++ [s.grid.pool.proxies.length] }
  | fill (number slot p) :
      s.grid.pool.get? number = some p →
      Taken s (.fill number slot)
        { s with grid := { s.grid with pool := s.grid.pool.setSlot number slot } }
  | cancel (number p) :
      s.grid.pool.get? number = some p →
      Taken s (.cancel number)
        { s with grid := { s.grid with pool :=
          { s.grid.pool with tokens := s.grid.pool.tokens.cancel p.token } } }
  | shutdown : Taken s .shutdown { s with grid := s.grid.shutdown }

/-- Every step that can be taken is one of those listed. -/
theorem taken_of_step (h : s.step move = some t) : Taken s move t := by
  cases move with
  | look name => cases h; exact .look name
  | enter request c =>
      rw [step] at h
      split at h
      next name hrequest =>
        cases hshared : s.grid.shared.get? name with
        | some number =>
            simp only [Grid.serviceProxy, hshared] at h
            cases h
            exact .meet request c name number hrequest hshared
        | none =>
            simp only [Grid.serviceProxy, hshared] at h
            cases h
            exact .make request c name hrequest hshared
      next => cases h
  | separate c name projection options => cases h; exact .separate c name projection options
  | fill number slot =>
      obtain ⟨p, hp, rfl⟩ := Option.map_eq_some_iff.1 h
      exact .fill number slot p hp
  | cancel number =>
      obtain ⟨p, hp, rfl⟩ := Option.map_eq_some_iff.1 h
      rw [ProxyPool.cancel, hp]
      exact .cancel number p hp
  | shutdown => cases h; exact .shutdown

/-- A request for a shared proxy that nothing comes between. -/
def requestAtOnce (s : GridUse) (c : Cluster) (name : ServiceName) : GridUse :=
  let found := s.grid.serviceProxy c name
  { s with grid := found.1, requests := s.requests ++ [⟨name, some found.2⟩] }

/-- A request that nothing comes between is a run of one or two steps. -/
theorem run_requestAtOnce (s : GridUse) (c : Cluster) (name : ServiceName) :
    ∃ moves, s.run moves = some (s.requestAtOnce c name) := by
  cases hshared : s.grid.shared.get? name with
  | some number =>
      exact ⟨[.look name], by simp [run, step, requestAtOnce, Grid.serviceProxy, hshared]⟩
  | none =>
      exact ⟨[.look name, .enter s.requests.length c],
        by simp [run, step, requestAtOnce, hshared]⟩

/-- The last step decides on a slot if it sets it. -/
theorem lastSlot_concat (history : List Move) (move : Move) (number : ProxyNumber) :
    lastSlot (history ++ [move]) number =
      (move.slot? number).getD (lastSlot history number) := by
  rw [lastSlot, List.filterMap_append, List.filterMap_cons, List.filterMap_nil]
  cases move.slot? number with
  | none => rw [List.append_nil]; rfl
  | some slot => rw [List.getLast?_concat]; rfl

/-- A slot that was never set is empty. -/
theorem lastSlot_of_forall {number : ProxyNumber} (h : ∀ slot, .fill number slot ∉ history) :
    lastSlot history number = .empty := by
  rw [lastSlot, List.filterMap_eq_nil_iff.2]
  · rfl
  · intro move hmove
    cases move with
    | fill other slot =>
        refine if_neg fun heq => h slot ?_
        rwa [← heq]
    | look | enter | separate | cancel | shutdown => rfl

namespace Pooled

/-- A grid that was not used. -/
theorem start (registry : RegistryNumber) (options : ProxyOptions) :
    Pooled [] (Grid.make registry options).shutdownToken (Grid.make registry options).pool where
  root := rfl
  issued := rfl
  token _ _ h := absurd h nofun
  cancelled := rfl
  filled _ _ h := absurd h List.not_mem_nil
  slot _ _ h := absurd h nofun

/-- Asking for a proxy sets no slot and cancels nothing. -/
theorem concat_request (h : Pooled history root pool) (hmove : move.IsRequest) :
    Pooled (history ++ [move]) root pool where
  root := h.root
  issued := h.issued
  token := h.token
  cancelled := by
    rw [h.cancelled, List.filterMap_append]
    cases move with
    | look | enter | separate => exact congrArg List.reverse (List.append_nil _).symm
    | fill | cancel | shutdown => exact hmove.elim
  filled number slot hfill := by
    rcases List.mem_append.1 hfill with hfill | hfill
    · exact h.filled number slot hfill
    · cases List.mem_singleton.1 hfill
      exact hmove.elim
  slot number p hp := by
    rw [lastSlot_concat, h.slot number p hp]
    cases move with
    | look | enter | separate => rfl
    | fill | cancel | shutdown => exact hmove.elim

/-- A proxy that is added has the next token and an empty slot. -/
theorem addBelow (h : Pooled history root pool) (c : Cluster) (name : ServiceName)
    (projection : Projection) (registry : RegistryNumber) (options : ProxyOptions) :
    Pooled history root (pool.addBelow root c name projection registry options).1 where
  root := h.root
  issued := by
    show pool.tokens.issued + 1 = (pool.proxies ++ [_]).length + 1
    rw [h.issued, List.length_append, List.length_singleton]
  token number p hp := by
    rw [pool.get?_addBelow] at hp
    split at hp
    next heq =>
      obtain rfl := Option.some.inj hp
      show (⟨pool.tokens.issued, root.number :: root.above⟩ : Token) = tokenOf number
      rw [h.issued, h.root, heq, tokenOf]
    next => exact h.token number p hp
  cancelled := h.cancelled
  filled number slot hfill := by
    show number < (pool.proxies ++ [_]).length
    rw [List.length_append]
    exact Nat.lt_add_right 1 (h.filled number slot hfill)
  slot number p hp := by
    rw [pool.get?_addBelow] at hp
    split at hp
    next heq =>
      obtain rfl := Option.some.inj hp
      refine (lastSlot_of_forall fun slot hfill => ?_).symm
      exact Nat.lt_irrefl number (heq ▸ h.filled number slot hfill)
    next => exact h.slot number p hp

/-- A slot that is set is the last of its proxy. -/
theorem setSlot (h : Pooled history root pool) {number : ProxyNumber}
    (hnumber : number < pool.proxies.length) (slot : StickySlot) :
    Pooled (history ++ [.fill number slot]) root (pool.setSlot number slot) where
  root := h.root
  issued := by rw [ProxyPool.setSlot, List.length_modify]; exact h.issued
  token other p hp := by
    rw [pool.get?_setSlot] at hp
    obtain ⟨q, hq, rfl⟩ := Option.map_eq_some_iff.1 hp
    rw [← h.token other q hq]
    split <;> rfl
  cancelled := by
    rw [List.filterMap_append]
    exact h.cancelled.trans (congrArg List.reverse (List.append_nil _).symm)
  filled other last hfill := by
    rw [ProxyPool.setSlot, List.length_modify]
    rcases List.mem_append.1 hfill with hfill | hfill
    · exact h.filled other last hfill
    · cases List.mem_singleton.1 hfill
      exact hnumber
  slot other p hp := by
    rw [pool.get?_setSlot] at hp
    obtain ⟨q, hq, rfl⟩ := Option.map_eq_some_iff.1 hp
    rw [lastSlot_concat, Move.slot?]
    split
    · rfl
    · exact h.slot other q hq

/-- A token that is cancelled was cancelled by that step. -/
theorem cancelToken (h : Pooled history root pool) (token : Token)
    (hmove : move.cancelled? = some token.number) :
    Pooled (history ++ [move]) root { pool with tokens := pool.tokens.cancel token } where
  root := h.root
  issued := h.issued
  token := h.token
  cancelled := by
    rw [List.filterMap_append, List.reverse_append, ← h.cancelled, List.filterMap_cons, hmove]
    rfl
  filled number slot hfill := by
    rcases List.mem_append.1 hfill with hfill | hfill
    · exact h.filled number slot hfill
    · cases List.mem_singleton.1 hfill
      cases hmove
  slot number p hp := by
    rw [lastSlot_concat, h.slot number p hp]
    cases move with
    | cancel | shutdown => rfl
    | look | enter | separate | fill => cases hmove

/-- The number of a proxy's token was cancelled with the proxy. -/
theorem mem_cancelled_succ (h : Pooled history root pool) (number : ProxyNumber) :
    number + 1 ∈ pool.tokens.cancelled ↔ .cancel number ∈ history := by
  rw [h.cancelled, List.mem_reverse, List.mem_filterMap]
  constructor
  · rintro ⟨move, hmove, hcancelled⟩
    cases move with
    | cancel other =>
        obtain rfl := Nat.succ.inj (Option.some.inj hcancelled)
        exact hmove
    | shutdown => exact absurd (Option.some.inj hcancelled) nofun
    | look | enter | separate | fill => cases hcancelled
  · exact fun hmove => ⟨_, hmove, rfl⟩

/-- The number of the first token was cancelled by shutting down. -/
theorem mem_cancelled_zero (h : Pooled history root pool) :
    0 ∈ pool.tokens.cancelled ↔ .shutdown ∈ history := by
  rw [h.cancelled, List.mem_reverse, List.mem_filterMap]
  constructor
  · rintro ⟨move, hmove, hcancelled⟩
    cases move with
    | shutdown => exact hmove
    | cancel => exact absurd (Option.some.inj hcancelled) nofun
    | look | enter | separate | fill => cases hcancelled
  · exact fun hmove => ⟨_, hmove, rfl⟩

/-- A proxy counts as cancelled if it or the whole grid was. -/
theorem isCancelled_iff (h : Pooled history root pool) {number : ProxyNumber} {p : Proxy}
    (hp : pool.get? number = some p) :
    pool.isCancelled number = true ↔ .cancel number ∈ history ∨ .shutdown ∈ history := by
  rw [ProxyPool.isCancelled, hp, Option.any_some, Tokens.isCancelled_iff, h.token number p hp,
    ← h.mem_cancelled_succ, ← h.mem_cancelled_zero]
  simp [tokenOf]

/-- Two proxies have one token only if they are one. -/
theorem token_inj (h : Pooled history root pool) {x y : ProxyNumber} {p q : Proxy}
    (hp : pool.get? x = some p) (hq : pool.get? y = some q) : p.token = q.token ↔ x = y := by
  rw [h.token x p hp, h.token y q hq, tokenOf, tokenOf]
  simp

/-- A step keeps the tokens and slots of the proxies accounted for. -/
theorem succ (h : Pooled history s.grid.shutdownToken s.grid.pool) (htaken : Taken s move t) :
    Pooled (history ++ [move]) t.grid.shutdownToken t.grid.pool := by
  cases htaken with
  | look | meet => exact h.concat_request trivial
  | make request c name => exact (h.addBelow c name ..).concat_request trivial
  | separate c name => exact (h.addBelow c name ..).concat_request trivial
  | fill number slot p hp => exact h.setSlot (ProxyPool.lt_length hp) slot
  | cancel number p hp => exact h.cancelToken p.token (by rw [h.token number p hp]; rfl)
  | shutdown => exact h.cancelToken s.grid.shutdownToken (by rw [h.root]; rfl)

end Pooled

/-- A request under way is answered, and the answers to the others stay. -/
theorem answered_set {request : Nat} {name other : ServiceName} {number given : ProxyNumber}
    (h : s.requests[request]? = some ⟨name, none⟩) :
    (⟨other, some given⟩ : Request) ∈ s.requests.set request ⟨name, some number⟩ ↔
      s.Answered other given ∨ (other = name ∧ given = number) := by
  have hlt : request < s.requests.length := (List.getElem?_eq_some_iff.1 h).1
  constructor
  · intro hmem
    rcases List.mem_or_eq_of_mem_set hmem with hmem | heq
    · exact .inl hmem
    · cases heq
      exact .inr ⟨rfl, rfl⟩
  · rintro (hmem | ⟨rfl, rfl⟩)
    · obtain ⟨index, hindex⟩ := List.mem_iff_getElem?.1 hmem
      refine List.mem_iff_getElem?.2 ⟨index, ?_⟩
      rw [List.getElem?_set_ne, hindex]
      rintro rfl
      cases h.symm.trans hindex
    · exact List.mem_set hlt _

/-- A proxy stays what it is, save for its slot. -/
def Keeps (s t : GridUse) : Prop :=
  ∀ number p, s.grid.pool.get? number = some p →
    ∃ slot, t.grid.pool.get? number = some { p with slot }

/-- Nothing happens to the proxies. -/
theorem Keeps.refl (s : GridUse) : Keeps s s := fun _ p hp => ⟨p.slot, hp⟩

/-- What is kept and then kept again is kept. -/
theorem Keeps.trans {u : GridUse} (hst : Keeps s t) (htu : Keeps t u) : Keeps s u := by
  intro number p hp
  obtain ⟨_, hp⟩ := hst number p hp
  obtain ⟨slot, hp⟩ := htu number _ hp
  exact ⟨slot, hp⟩

/-- A proxy that is added leaves the others as they are. -/
theorem get?_proxyFor {number : ProxyNumber} {p : Proxy} (hp : s.grid.pool.get? number = some p)
    (c : Cluster) (name : ServiceName) (projection : Projection) (options : ProxyOptions) :
    (s.grid.proxyFor c name projection options).1.pool.get? number = some p := by
  refine (s.grid.pool.get?_addBelow number ..).trans ?_
  rw [if_neg (Nat.ne_of_lt (ProxyPool.lt_length hp)), hp]

/-- A step keeps the proxies. -/
theorem keeps_of_taken (h : Taken s move t) : Keeps s t := by
  intro number p hp
  cases h with
  | look | meet | cancel | shutdown => exact ⟨p.slot, hp⟩
  | make | separate => exact ⟨p.slot, get?_proxyFor hp ..⟩
  | fill other slot =>
      refine (s.grid.pool.get?_setSlot number other slot).symm ▸ ?_
      rw [hp, Option.map_some]
      split
      · exact ⟨slot, rfl⟩
      · exact ⟨p.slot, rfl⟩

namespace Shares

/-- A grid that was not used shares nothing. -/
theorem start (registry : RegistryNumber) (options : ProxyOptions) :
    Shares (unused registry options) where
  shared _ _ := iff_of_false nofun List.not_mem_nil
  named _ _ h := absurd h List.not_mem_nil
  separate _ h := absurd h List.not_mem_nil

/-- Shared proxies are given as before if the grid shares the same and the proxies are kept. -/
theorem of_keeps (h : Shares s) (hkeeps : Keeps s t) (hshared : t.grid.shared = s.grid.shared)
    (hanswered : ∀ name number, t.Answered name number ↔ s.Answered name number)
    (hseparate : t.separate = s.separate) : Shares t where
  shared name number := by rw [hshared, hanswered, h.shared]
  named name number hgiven := by
    obtain ⟨p, hp, hname⟩ := h.named name number ((hanswered name number).1 hgiven)
    obtain ⟨slot, hslot⟩ := hkeeps number p hp
    exact ⟨_, hslot, hname⟩
  separate number hnumber := by
    rw [hseparate] at hnumber
    obtain ⟨⟨p, hp⟩, hnone⟩ := h.separate number hnumber
    obtain ⟨slot, hslot⟩ := hkeeps number p hp
    exact ⟨⟨_, hslot⟩, fun name hgiven => hnone name ((hanswered name number).1 hgiven)⟩

/-- What was not yet given is not given out by a proxy's number that is not yet taken. -/
theorem not_answered_length (h : Shares s) (name : ServiceName) :
    ¬ s.Answered name s.grid.pool.proxies.length := by
  intro hgiven
  obtain ⟨p, hp, _⟩ := h.named name _ hgiven
  exact Nat.lt_irrefl _ (ProxyPool.lt_length hp)

/-- The next number is that of a proxy that is added. -/
theorem get?_proxyFor_length (g : Grid) (c : Cluster) (name : ServiceName) (projection : Projection)
    (options : ProxyOptions) : ∃ p,
    (g.proxyFor c name projection options).1.pool.get? g.pool.proxies.length = some p ∧
      p.name = name := by
  refine ⟨_, (g.pool.get?_addBelow _ ..).trans (if_pos rfl), rfl⟩

/-- A step keeps the shared proxies those that were given. -/
theorem succ (h : Shares s) (htaken : Taken s move t) : Shares t := by
  have hkeeps : Keeps s t := keeps_of_taken htaken
  cases htaken with
  | look name =>
      refine h.of_keeps hkeeps rfl (fun other given => ?_) rfl
      -- What the request finds was given before.
      refine List.mem_append.trans (or_iff_left_of_imp fun hmem => ?_)
      cases hshared : s.grid.shared.get? name with
      | none => rw [hshared] at hmem; cases List.mem_singleton.1 hmem
      | some number =>
          rw [hshared] at hmem
          cases List.mem_singleton.1 hmem
          exact (h.shared name _).1 hshared
  | meet request c name number hrequest hshared =>
      refine h.of_keeps hkeeps rfl (fun other given => ?_) rfl
      refine (answered_set hrequest).trans (or_iff_left_of_imp ?_)
      rintro ⟨rfl, rfl⟩
      exact (h.shared other given).1 hshared
  | make request c name hrequest hshared =>
      refine ⟨fun other given => ?_, fun other given hgiven => ?_, fun number hnumber => ?_⟩
      · refine Iff.trans ?_ (answered_set hrequest).symm
        refine (iff_of_eq (congrArg (· = some given) (Table.get?_insert ..))).trans ?_
        split
        next heq =>
          subst heq
          have hnone : ¬ s.Answered other given := fun hgiven =>
            absurd ((h.shared other given).2 hgiven) (by rw [hshared]; exact nofun)
          simp only [hnone, Option.some.injEq, true_and, false_or, eq_comm]
        next hne => simp only [h.shared, hne, false_and, or_false]
      · rcases (answered_set hrequest).1 hgiven with hgiven | ⟨rfl, rfl⟩
        · obtain ⟨p, hp, hname⟩ := h.named other given hgiven
          exact ⟨p, get?_proxyFor hp .., hname⟩
        · exact get?_proxyFor_length ..
      · obtain ⟨⟨p, hp⟩, hnone⟩ := h.separate number hnumber
        refine ⟨⟨p, get?_proxyFor hp ..⟩, fun other hgiven => ?_⟩
        rcases (answered_set hrequest).1 hgiven with hgiven | ⟨rfl, rfl⟩
        · exact hnone other hgiven
        · exact Nat.lt_irrefl _ (ProxyPool.lt_length hp)
  | separate c name projection options =>
      refine ⟨h.shared, fun other given hgiven => ?_, fun number hnumber => ?_⟩
      · obtain ⟨p, hp, hname⟩ := h.named other given hgiven
        exact ⟨p, get?_proxyFor hp .., hname⟩
      · rcases List.mem_append.1 hnumber with hnumber | hnumber
        · obtain ⟨⟨p, hp⟩, hnone⟩ := h.separate number hnumber
          exact ⟨⟨p, get?_proxyFor hp ..⟩, hnone⟩
        · obtain rfl := List.mem_singleton.1 hnumber
          obtain ⟨p, hp, _⟩ := get?_proxyFor_length s.grid c name projection options
          exact ⟨⟨p, hp⟩, h.not_answered_length⟩
  | fill | cancel | shutdown => exact h.of_keeps hkeeps rfl (fun _ _ => Iff.rfl) rfl

end Shares

/-- An answer is final. -/
theorem answered_of_taken (h : Taken s move t) {name : ServiceName} {number : ProxyNumber}
    (hgiven : s.Answered name number) : t.Answered name number := by
  cases h with
  | look => exact List.mem_append_left _ hgiven
  | meet _ _ _ _ hrequest | make _ _ _ hrequest => exact (answered_set hrequest).2 (.inl hgiven)
  | separate | fill | cancel | shutdown => exact hgiven

/-- What a later moment has of an earlier one. -/
structure Continues (s t : GridUse) : Prop where
  keeps : Keeps s t
  answered : ∀ name number, s.Answered name number → t.Answered name number
  separate : ∀ number ∈ s.separate, number ∈ t.separate

/-- Nothing is taken back by not going on. -/
theorem Continues.refl (s : GridUse) : Continues s s := ⟨.refl s, fun _ _ => id, fun _ => id⟩

/-- What goes on goes on from all that was before. -/
theorem Continues.trans {u : GridUse} (hst : Continues s t) (htu : Continues t u) :
    Continues s u where
  keeps := hst.keeps.trans htu.keeps
  answered name number h := htu.answered name number (hst.answered name number h)
  separate number h := htu.separate number (hst.separate number h)

/-- A step goes on from what there is. -/
theorem continues_of_taken (h : Taken s move t) : Continues s t where
  keeps := keeps_of_taken h
  answered _ _ := answered_of_taken h
  separate number hnumber := by
    cases h with
    | separate => exact List.mem_append_left _ hnumber
    | look | meet | make | fill | cancel | shutdown => exact hnumber

/-- What is so before steps that keep it is so after them. -/
theorem run_induction {P : List Move → GridUse → Prop} (history : List Move) {moves : List Move}
    (hstart : P history s)
    (hsucc : ∀ {history s move t}, P history s → Taken s move t → P (history ++ [move]) t)
    (h : s.run moves = some t) : P (history ++ moves) t := by
  induction moves generalizing history s with
  | nil =>
      cases h
      rwa [List.append_nil]
  | cons move moves ih =>
      obtain ⟨next, hstep, hrest⟩ := Option.bind_eq_some_iff.1 h
      have hnext := ih (history ++ [move]) (hsucc hstart (taken_of_step hstep)) hrest
      rwa [List.append_assoc] at hnext

/-- After a run the proxies are accounted for if they were before. -/
theorem sound_of_run (history : List Move) {moves : List Move}
    (hpooled : Pooled history s.grid.shutdownToken s.grid.pool) (hshares : Shares s)
    (h : s.run moves = some t) :
    Pooled (history ++ moves) t.grid.shutdownToken t.grid.pool ∧ Shares t :=
  run_induction (P := fun history s => Pooled history s.grid.shutdownToken s.grid.pool ∧ Shares s)
    history ⟨hpooled, hshares⟩ (fun h htaken => ⟨h.1.succ htaken, h.2.succ htaken⟩) h

/-- A run goes on from what there is. -/
theorem continues_of_run {moves : List Move} (h : s.run moves = some t) : Continues s t :=
  run_induction (P := fun _ => Continues s) [] (.refl s)
    (fun h htaken => h.trans (continues_of_taken htaken)) h

/-- The service whose shared proxy a step begins to request. -/
def Move.requested? : Move → Option ServiceName
  | look name => some name
  | enter .. | separate .. | fill .. | cancel _ | shutdown => none

/-- Every request for a shared proxy is remembered. -/
theorem names_of_taken (h : Taken s move t) :
    t.requests.map Request.name = s.requests.map Request.name ++ move.requested?.toList := by
  cases h with
  | look name => exact List.map_append
  | meet request _ name _ hrequest | make request _ name hrequest =>
      refine Eq.trans ?_ (List.append_nil _).symm
      -- The request that is answered is for the same service as before.
      refine List.ext_getElem? fun index => ?_
      rw [List.map_set, List.getElem?_set]
      split
      next heq =>
        subst heq
        have hlt : request < (s.requests.map Request.name).length := by
          rw [List.length_map]
          exact (List.getElem?_eq_some_iff.1 hrequest).1
        rw [if_pos hlt, List.getElem?_map, hrequest]
        rfl
      next => rfl
  | separate | fill | cancel | shutdown => exact (List.append_nil _).symm

/-- The services whose shared proxies were requested are those of the steps. -/
theorem names_of_run (history : List Move) {moves : List Move}
    (hstart : s.requests.map Request.name = history.filterMap Move.requested?)
    (h : s.run moves = some t) :
    t.requests.map Request.name = (history ++ moves).filterMap Move.requested? :=
  run_induction (P := fun history s => s.requests.map Request.name =
      history.filterMap Move.requested?) history hstart
    (fun {history s move t} h htaken => by
      rw [names_of_taken htaken, h, List.filterMap_append]
      cases move <;> rfl) h

/-- What a grid shares, by what requests were given. -/
theorem sharedCount_eq (h : Shares s) : s.grid.sharedCount =
    ((s.requests.filter (·.given.isSome)).map Request.name).dedup.length := by
  have hperm : s.grid.shared.keys.Perm
      ((s.requests.filter (·.given.isSome)).map Request.name).dedup := by
    refine (List.perm_ext_iff_of_nodup s.grid.shared.nodup_keys (List.nodup_dedup _)).2
      fun name => ?_
    simp only [Table.mem_keys_iff, h.shared, List.mem_dedup, List.mem_map, List.mem_filter]
    constructor
    · rintro ⟨number, hgiven⟩
      exact ⟨_, ⟨hgiven, rfl⟩, rfl⟩
    · rintro ⟨⟨name, given⟩, ⟨hgiven, hsome⟩, rfl⟩
      obtain ⟨number, rfl⟩ := Option.isSome_iff_exists.1 hsome
      exact ⟨number, hgiven⟩
  rw [← hperm.length_eq, Table.keys, List.length_map]
  rfl

/-- What a user of a grid can rely on at a moment and at a later one. -/
structure Account (earlier later : List Move) (s t : GridUse) : Prop where
  /-- A proxy is cancelled if it was itself or the grid was shut down, before or after its
  making. -/
  cancelled : ∀ number p, t.grid.pool.get? number = some p →
    (t.grid.pool.isCancelled number = true ↔
      .cancel number ∈ earlier ++ later ∨ .shutdown ∈ earlier ++ later)
  /-- Nothing but shutting down shuts the grid down. -/
  shutDown : t.grid.isShutDown = true ↔ .shutdown ∈ earlier ++ later
  /-- A proxy stays what it is, save for its slot. -/
  kept : ∀ number p, s.grid.pool.get? number = some p →
    ∃ slot, t.grid.pool.get? number = some { p with slot }
  /-- Two proxies never have one token. -/
  token : ∀ x y p q, t.grid.pool.get? x = some p → t.grid.pool.get? y = some q →
    (p.token = q.token ↔ x = y)
  /-- A slot is what it was last set to under the number of its proxy. -/
  slot : ∀ number p, t.grid.pool.get? number = some p →
    p.slot = lastSlot (earlier ++ later) number
  /-- What a request is given is a proxy of the service asked for. -/
  given : ∀ name number, t.Answered name number →
    ∃ p, t.grid.pool.get? number = some p ∧ p.name = name
  /-- Two requests are given one proxy if they ask for one service. -/
  same : ∀ a b x y, s.Answered a x → t.Answered b y → (x = y ↔ a = b)
  /-- There is one shared proxy for each service whose requests were answered. -/
  count : t.grid.sharedCount =
    ((t.requests.filter (·.given.isSome)).map Request.name).dedup.length
  /-- With no request under way, as many proxies are shared as services were ever asked for. -/
  countAll : (∀ request ∈ t.requests, request.given.isSome = true) →
    t.grid.sharedCount = ((earlier ++ later).filterMap Move.requested?).dedup.length
  /-- A proxy for a part of the cluster is never shared. -/
  separate : ∀ number, number ∈ s.separate ∨ number ∈ t.separate → ∀ name,
    t.grid.shared.get? name ≠ some number ∧ ¬ t.Answered name number
  /-- Making a proxy for a part of the cluster leaves what is shared as it is, and the proxy is not
  shared. -/
  unshared : ∀ c name projection options,
    (t.grid.proxyFor c name projection options).1.shared = t.grid.shared ∧
    ∀ other, t.grid.shared.get? other ≠ some (t.grid.proxyFor c name projection options).2

/-- The account follows from what the proxies come from and from what goes on. -/
theorem account_of_sound {earlier later : List Move}
    (hpooled : Pooled (earlier ++ later) t.grid.shutdownToken t.grid.pool) (hshares : Shares t)
    (hcontinues : Continues s t)
    (hnames : t.requests.map Request.name = (earlier ++ later).filterMap Move.requested?) :
    Account earlier later s t where
  cancelled _ _ hp := hpooled.isCancelled_iff hp
  shutDown := by
    rw [Grid.isShutDown, Tokens.isCancelled_iff, hpooled.root, ← hpooled.mem_cancelled_zero]
    simp
  kept := hcontinues.keeps
  token _ _ _ _ hp hq := hpooled.token_inj hp hq
  slot := hpooled.slot
  given := hshares.named
  same a b x y hx hy := by
    replace hx := hcontinues.answered a x hx
    constructor
    -- A proxy has the name of the service that it was given for.
    · rintro rfl
      obtain ⟨p, hp, rfl⟩ := hshares.named a x hx
      obtain ⟨q, hq, rfl⟩ := hshares.named b x hy
      exact congrArg Proxy.name (Option.some.inj (hp.symm.trans hq))
    · rintro rfl
      exact Option.some.inj (((hshares.shared a x).2 hx).symm.trans ((hshares.shared a y).2 hy))
  count := sharedCount_eq hshares
  countAll hsettled := by
    rw [sharedCount_eq hshares, List.filter_eq_self.2 hsettled, hnames]
  separate number hnumber name := by
    have hnumber : number ∈ t.separate := hnumber.elim (hcontinues.separate number) id
    have hnone := (hshares.separate number hnumber).2 name
    exact ⟨fun hshared => hnone ((hshares.shared name number).1 hshared), hnone⟩
  unshared c name projection options :=
    ⟨rfl, fun other hshared =>
      hshares.not_answered_length other ((hshares.shared other _).1 hshared)⟩

/-- The proxies of a grid are accounted for, whatever is asked of it and in whatever order. -/
theorem proxies_accounted (registry : RegistryNumber) (options : ProxyOptions)
    (earlier later : List Move) (hs : (unused registry options).run earlier = some s)
    (ht : s.run later = some t) : Account earlier later s t := by
  obtain ⟨hpooled, hshares⟩ :=
    sound_of_run [] (.start registry options) (.start registry options) hs
  obtain ⟨hpooled, hshares⟩ := sound_of_run earlier hpooled hshares ht
  exact account_of_sound hpooled hshares (continues_of_run ht)
    (names_of_run earlier (names_of_run [] rfl hs) ht)

/-- Two tasks request the proxy of one service at the same time, and the second to look is the first
to make it; a proxy for the local node alone is made, and the shared one is cancelled. -/
def race (c : Cluster) : List Move :=
  [.look "s", .look "s", .enter 1 c, .separate c "s" (.nodes [] [c.localNode.id]) {}, .enter 0 c,
    .cancel 0]

/-- The grid is shut down, and then the proxies of this service and of another are requested. -/
def aftermath (c : Cluster) : List Move :=
  [.shutdown, .look "s", .look "t", .enter 3 c]

/-- All requests for the service are given the proxy that one of them made, also after that was
cancelled, and the one made after the end is cancelled like the others. -/
theorem proxies_accounted_of_race :
    let c := Cluster.ofNode (.ofId "home")
    ∃ s t, (unused 0 {}).run (race c) = some s ∧ s.run (aftermath c) = some t ∧
      Account (race c) (aftermath c) s t ∧
      s.requests = [⟨"s", some 0⟩, ⟨"s", some 0⟩] ∧ s.separate = [1] ∧
      t.requests = s.requests ++ [⟨"s", some 0⟩, ⟨"t", some 2⟩] ∧ t.grid.sharedCount = 2 :=
  ⟨_, _, rfl, rfl, proxies_accounted 0 {} (race _) (aftermath _) rfl rfl, rfl, rfl, rfl, rfl⟩

end GridUse

end ServiceRouting
