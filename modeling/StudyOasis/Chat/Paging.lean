import StudyOasis.Chat.Recency
import StudyOasis.Common.Paging

/-!
# Reading the list of conversations page by page

`getConversations` tells whether there is more, and a client goes on at the next offset while
there is.  The rows are ordered by `updatedAt` alone, so that the database may answer each query
with another order of the conversations that were written in the same millisecond.

* `walk_eq` : the walk ends, behind the page in which the last conversation is;
* `walk_complete_iff` : **when it shows every conversation once**: no page ends among conversations
  with the same `updatedAt`.
-/

namespace StudyOasis

namespace TimedServer

variable (s : TimedServer) (userId : Option String)

/-- The row of a conversation was written last at this time. -/
def updatedAt (conv : Conversation) : ℤ := (s.times conv.id).updatedAt

/-- An order in which the database may answer `findMany`. -/
abbrev ListOrder := QueryOrder s.updatedAt (s.conversationsOf userId)

variable {s userId}

/-- `ConversationRepository.findMany`, answered in the given order. -/
def findManyIn (order : s.ListOrder userId) (limit offset : ℕ) : List ConversationListPreview :=
  (pageOf order.list limit offset).map s.preview

/-- `ChatService.getConversations`, answered in the given order. -/
def getConversationsIn (order : s.ListOrder userId) (limit offset : ℕ) :
    PaginatedResponse ConversationSummary :=
  let limit := if limit = 0 then 20 else limit
  createPaginatedResponse ((findManyIn order limit offset).map summary)
    (s.conversationsOf userId).length limit offset

/-- The order in which the rows are stored, where they are equally recent. -/
theorem getConversationsIn_stable (limit offset : ℕ) :
    getConversationsIn (QueryOrder.stable s.updatedAt (s.conversationsOf userId)) limit offset =
      s.getConversations userId limit offset :=
  rfl

/-- The requests from the `k`-th one on, at most `fuel` of them, while there is more; each one may
be answered in another order. -/
def walkFrom (orders : ℕ → s.ListOrder userId) (limit : ℕ) :
    ℕ → ℕ → Option (List ConversationSummary)
  | 0, _ => none
  | fuel + 1, k =>
    let page := getConversationsIn (orders k) limit (k * limit)
    if page.hasMore then (walkFrom orders limit fuel (k + 1)).map (page.data ++ ·)
    else some page.data

/-- All conversations that the requests show. -/
def walk (orders : ℕ → s.ListOrder userId) (limit fuel : ℕ) : Option (List ConversationSummary) :=
  walkFrom orders limit fuel 0

/-- How many requests a walk takes: one at least. -/
def requests (total limit : ℕ) : ℕ := (total - 1) / limit + 1

theorem le_requests_mul {total limit : ℕ} (hlimit : 0 < limit) :
    total ≤ requests total limit * limit := by
  have hdiv := Nat.div_add_mod (total - 1) limit
  have hmod := Nat.mod_lt (total - 1) hlimit
  rw [requests, Nat.succ_mul, Nat.mul_comm]
  omega

theorem mul_lt_of_lt_requests {total limit k : ℕ} (hk : k + 1 < requests total limit) :
    (k + 1) * limit < total := by
  have hle : k + 1 ≤ (total - 1) / limit := Nat.le_of_lt_succ hk
  have hmul := (Nat.mul_le_mul_right limit hle).trans (Nat.div_mul_le_self (total - 1) limit)
  rcases Nat.eq_zero_or_pos total with rfl | hpos
  · rw [Nat.zero_sub, Nat.zero_div] at hle
    omega
  · omega

/-- A conversation in the answer. -/
def summaryOf (s : TimedServer) (conv : Conversation) : ConversationSummary :=
  summary (s.preview conv)

section

variable {orders : ℕ → s.ListOrder userId} {limit : ℕ}

/-- What one request answers. -/
theorem getConversationsIn_eq (hlimit : 0 < limit) (order : s.ListOrder userId) (k : ℕ) :
    (getConversationsIn order limit (k * limit)).data =
        (pageOf order.list limit (k * limit)).map s.summaryOf ∧
      ((getConversationsIn order limit (k * limit)).hasMore = true ↔
        (k + 1) * limit < (s.conversationsOf userId).length) := by
  rw [getConversationsIn, if_neg hlimit.ne']
  refine ⟨List.map_map, ?_⟩
  have hlen := order.perm.length_eq
  simp only [createPaginatedResponse, findManyIn, pageOf, decide_eq_true_eq, List.length_map,
    List.length_take, List.length_drop, hlen, Nat.succ_mul]
  omega

theorem walkFrom_eq (hlimit : 0 < limit) (fuel k : ℕ)
    (hk : k < requests (s.conversationsOf userId).length limit)
    (hfuel : requests (s.conversationsOf userId).length limit ≤ k + fuel) :
    (walkFrom orders limit fuel k).map ((walked orders limit k).map s.summaryOf ++ ·) =
      some ((walked orders limit (requests (s.conversationsOf userId).length limit)).map
        s.summaryOf) := by
  induction fuel generalizing k with
  | zero => omega
  | succ fuel ih =>
    obtain ⟨hdata, hiff⟩ := getConversationsIn_eq hlimit (orders k) k
    have hstep : (walked orders limit (k + 1)).map s.summaryOf =
        (walked orders limit k).map s.summaryOf ++
          (getConversationsIn (orders k) limit (k * limit)).data := by
      rw [walked_succ, List.map_append, hdata]
    rcases (Nat.succ_le_of_lt hk).lt_or_eq with hlt | heq
    · rw [← ih (k + 1) hlt (by omega), hstep, walkFrom,
        if_pos (hiff.2 (mul_lt_of_lt_requests hlt)), Option.map_map]
      congr 1
      funext data
      exact (List.append_assoc _ _ _).symm
    · have hlast : (s.conversationsOf userId).length ≤ _ := le_requests_mul hlimit
      rw [← heq] at hlast
      rw [walkFrom, if_neg (fun h => absurd (hiff.1 h) (not_lt.2 hlast)), Option.map_some, ← heq,
        hstep]

/-- **The walk ends**, and shows the pages up to the one with the last conversation. -/
theorem walk_eq (hlimit : 0 < limit) {fuel : ℕ}
    (hfuel : requests (s.conversationsOf userId).length limit ≤ fuel) :
    walk orders limit fuel =
      some ((walked orders limit (requests (s.conversationsOf userId).length limit)).map
        s.summaryOf) := by
  rw [← walkFrom_eq hlimit fuel 0 (Nat.succ_pos _) (by omega), walk]
  exact Option.map_id'.symm

end

/-- The walk ends and shows these conversations. -/
def WalkShows (orders : ℕ → s.ListOrder userId) (limit : ℕ) (data : List ConversationSummary) :
    Prop :=
  ∃ n, ∀ fuel, n ≤ fuel → walk orders limit fuel = some data

theorem walkShows_iff {orders : ℕ → s.ListOrder userId} {limit : ℕ} (hlimit : 0 < limit)
    {data : List ConversationSummary} :
    WalkShows orders limit data ↔
      data = (walked orders limit (requests (s.conversationsOf userId).length limit)).map
        s.summaryOf := by
  constructor
  · rintro ⟨n, hn⟩
    have h := hn (max n (requests (s.conversationsOf userId).length limit)) (Nat.le_max_left _ _)
    rw [walk_eq hlimit (Nat.le_max_right _ _)] at h
    exact (Option.some.inj h).symm
  · rintro rfl
    exact ⟨_, fun fuel hfuel => walk_eq hlimit hfuel⟩

/-- **When the pages show every conversation once**, however the database orders what is equally
recent: no page ends among conversations with the same `updatedAt`. -/
theorem walk_complete_iff (s : TimedServer) (userId : Option String) {limit : ℕ}
    (hlimit : 0 < limit) (hids : (s.server.db.conversation.map (·.id)).Nodup) :
    (∀ orders : ℕ → s.ListOrder userId, ∃ data, WalkShows orders limit data ∧
      data.Perm ((s.conversationsOf userId).map s.summaryOf)) ↔
    ∀ k, ¬ SplitsTie s.updatedAt (s.conversationsOf userId) (k * limit) := by
  have hsub : (s.conversationsOf userId).Sublist s.server.db.conversation := by
    unfold conversationsOf
    split
    · exact List.filter_sublist
    · exact List.Sublist.refl _
  have hnodup : ((s.conversationsOf userId).map s.summaryOf).Nodup := by
    refine List.Nodup.of_map (·.id) ?_
    rw [List.map_map]
    exact hids.sublist (hsub.map _)
  rw [← map_walked_perm_iff hnodup hlimit (le_requests_mul hlimit)]
  refine forall_congr' fun orders => ?_
  simp only [walkShows_iff hlimit, exists_eq_left]

/-- Two conversations that were written in the same millisecond. -/
def twoTied : TimedServer where
  server := { db := { conversation := [⟨"a", none, none, none⟩, ⟨"b", none, none, none⟩]
                      message := [] }
              clock := 0 }
  times := fun _ => ⟨0, 0⟩

/-- They fit on one page. -/
theorem walk_complete_twoTied :
    ∃ data, WalkShows (fun _ => QueryOrder.stable twoTied.updatedAt (twoTied.conversationsOf none))
        20 data ∧
      data.Perm ((twoTied.conversationsOf none).map twoTied.summaryOf) := by
  refine (walk_complete_iff twoTied none (by decide : 0 < 20) (by decide)).2 (fun k h => ?_) _
  have hpos := h.pos
  have hlt := h.lt_length
  have hlen : (twoTied.conversationsOf none).length = 2 := rfl
  omega

/-- On two pages one of them may be shown twice and the other one not at all. -/
theorem walk_repeats : ∃ orders : ℕ → twoTied.ListOrder none,
    WalkShows orders 1 [⟨"a", none, none, 0, none, 0, 0, 0⟩, ⟨"a", none, none, 0, none, 0, 0, 0⟩] ∧
      ¬ ∃ data, WalkShows orders 1 data ∧
        data.Perm ((twoTied.conversationsOf none).map twoTied.summaryOf) := by
  refine ⟨fun k => if k = 0 then ⟨[⟨"a", none, none, none⟩, ⟨"b", none, none, none⟩], ?_, ?_⟩
    else ⟨[⟨"b", none, none, none⟩, ⟨"a", none, none, none⟩], ?_, ?_⟩, ?_, ?_⟩
  · decide
  · decide
  · decide
  · decide
  · exact (walkShows_iff (by decide)).2 rfl
  · rintro ⟨data, hdata, hperm⟩
    rw [(walkShows_iff (by decide)).1 hdata] at hperm
    revert hperm
    decide

end TimedServer

end StudyOasis
