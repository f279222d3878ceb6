import Crowdlending.Proofs.Token.Published

/-!
# When keys are fetched

A cache of keys is looked into again and again, at times that do not go back, and whenever it asks
the endpoint, the endpoint replies as it likes. The look-ups before tell what the next one does.
It asks the endpoint unless a document was fetched less than the time to live ago, and otherwise it
answers from the document that was fetched last. A request that fails changes nothing, so the next
look-up asks again, and nobody is answered from a document that is too old. Times are numbers
without a bound.
-/
namespace Crowdlending.Token
open Json

/-! ## Replies -/

namespace Reply

/-- The reply has a status of success and a body that reads as this document. -/
inductive Brings : Reply → KeySet → Prop where
  | document {status : ℕ} {body : List UInt8} {doc : KeySet} :
      200 ≤ status → status ≤ 299 → KeySet.ofDoc (readWhole body) = .ok doc →
        Brings (.response status body) doc

/-- The reply brings no document, for this cause. -/
inductive Fails : Reply → InternalFault → Prop where
  | unreachable : Fails .unreachable .keySetUnreachable
  | status {status : ℕ} (body : List UInt8) : status < 200 ∨ 299 < status →
      Fails (.response status body) (.keySetStatus (toString status ++ " " ++ reason status))
  | unreadable {status : ℕ} {body : List UInt8} {fault : Fault} :
      200 ≤ status → status ≤ 299 → KeySet.ofDoc (readWhole body) = .error fault →
        Fails (.response status body) .keySetUnreadable

theorem brings_or_fails (r : Reply) :
    (∃ doc, r.Brings doc ∧ r.keySet = .ok doc) ∨
      ∃ fault, r.Fails fault ∧ r.keySet = .error fault := by
  cases r with
  | unreachable => exact .inr ⟨_, .unreachable, rfl⟩
  | response status body =>
      by_cases hstatus : status < 200 ∨ 299 < status
      · exact .inr ⟨_, .status body hstatus, if_pos hstatus⟩
      · have hleast : 200 ≤ status := by omega
        have hmost : status ≤ 299 := by omega
        cases hbody : KeySet.ofDoc (readWhole body) with
        | ok doc =>
            refine .inl ⟨doc, .document hleast hmost hbody, ?_⟩
            simp only [keySet, if_neg hstatus, hbody]
        | error fault =>
            refine .inr ⟨_, .unreadable hleast hmost hbody, ?_⟩
            simp only [keySet, if_neg hstatus, hbody]

theorem Fails.not_brings {r : Reply} {fault : InternalFault} (h : r.Fails fault) (doc : KeySet) :
    ¬r.Brings doc := by
  rintro ⟨hleast, hmost, hread⟩
  cases h with
  | status _ hstatus => omega
  | unreadable _ _ hbody => rw [hread] at hbody; cases hbody

theorem Brings.eq {r : Reply} {doc doc' : KeySet} (h : r.Brings doc) (h' : r.Brings doc') :
    doc = doc' := by
  cases h with
  | document _ _ hread =>
      cases h' with
      | document _ _ hread' => exact Except.ok.inj (hread.symm.trans hread')

theorem Fails.eq {r : Reply} {fault fault' : InternalFault} (h : r.Fails fault)
    (h' : r.Fails fault') : fault = fault' := by
  cases h <;> cases h' <;> first | rfl | omega

end Reply

theorem KeySet.Answers.mem {s : KeySet} {kid : String} {key : PublicKey}
    (h : s.Answers kid (.ok key)) : key ∈ s.keys ∧ key.kid = kid := by
  rcases h with ⟨older, k, newer, hkeys, hkid, -, hsame⟩ | ⟨-, hsame⟩
  · cases hsame
    exact ⟨by simp [hkeys], hkid⟩
  · cases hsame

namespace KeyCache

/-! ## Look-ups in a row -/

/-- What is asked of the cache, and what the endpoint replies if it is asked in turn. -/
structure Query where
  now : ℕ
  reply : Reply
  kid : String

/-- A look-up, with the cache that it finds. -/
structure Visit where
  found : KeyCache
  query : Query

def Visit.lookup (v : Visit) : Lookup PublicKey :=
  v.found.find v.query.now v.query.reply v.query.kid

/-- The look-ups one after the other. -/
def visits (c : KeyCache) : List Query → List Visit
  | [] => []
  | q :: queries => ⟨c, q⟩ :: (Visit.mk c q).lookup.cache.visits queries

/-- The look-up asked the endpoint, and the reply brought this document. -/
def Visit.Fetched (v : Visit) (doc : KeySet) : Prop :=
  v.lookup.fetched = true ∧ v.query.reply.Brings doc

/-- Of all these look-ups, this was the last to fetch a document. -/
def IsLastFetch (before : List Visit) (w : Visit) (doc : KeySet) : Prop :=
  w.Fetched doc ∧ ∃ older newer, before = older ++ w :: newer ∧ ∀ x ∈ newer, ∀ d, ¬x.Fetched d

/-- What a look-up does, told by the look-ups before it. -/
structure Visit.Follows (v : Visit) (ttl : ℕ) (before : List Visit) : Prop where
  asks : v.lookup.fetched = true ↔
    ¬∃ w ∈ before, (∃ doc, w.Fetched doc) ∧ v.query.now < w.query.now + ttl
  fresh : v.lookup.fetched = false →
    v.lookup.cache = v.found ∧
      ∃ w doc, IsLastFetch before w doc ∧ v.query.now < w.query.now + ttl ∧
        doc.Answers v.query.kid v.lookup.result
  renewed : ∀ doc, v.Fetched doc →
    v.lookup.cache = ⟨ttl, some ⟨doc, v.query.now + ttl⟩⟩ ∧ doc.Answers v.query.kid v.lookup.result
  failed : ∀ fault, v.lookup.fetched = true → v.query.reply.Fails fault →
    v.lookup.cache = v.found ∧ v.lookup.result = .error (.internal fault)

/-! ## One look-up -/

theorem Visit.lookup_of_keySet {v : Visit} {doc : KeySet}
    (hold : v.found.fresh? v.query.now = none) (hkeys : v.query.reply.keySet = .ok doc) :
    v.lookup = ⟨⟨v.found.ttl, some ⟨doc, v.query.now + v.found.ttl⟩⟩, true,
      doc.find v.query.kid⟩ := by
  simp only [lookup, find, hold, hkeys]

/-- The three ways in which a look-up may go. -/
theorem lookup_cases (v : Visit) :
    (∃ k, v.found.cached = some k ∧ v.query.now < k.expiresAt ∧
      v.lookup = ⟨v.found, false, k.keys.find v.query.kid⟩) ∨
    (∀ k, v.found.cached = some k → k.expiresAt ≤ v.query.now) ∧
      ((∃ doc, v.query.reply.Brings doc ∧
        v.lookup = ⟨⟨v.found.ttl, some ⟨doc, v.query.now + v.found.ttl⟩⟩, true,
          doc.find v.query.kid⟩) ∨
      ∃ fault, v.query.reply.Fails fault ∧
        v.lookup = ⟨v.found, true, .error (.internal fault)⟩) := by
  by_cases hfresh : ∃ k, v.found.cached = some k ∧ v.query.now < k.expiresAt
  · obtain ⟨k, hk, hnow⟩ := hfresh
    refine .inl ⟨k, hk, hnow, ?_⟩
    simp only [Visit.lookup, find, fresh?, hk, if_pos hnow]
  · have hold : ∀ k, v.found.cached = some k → k.expiresAt ≤ v.query.now :=
      fun k hk => Nat.not_lt.mp fun hnow => hfresh ⟨k, hk, hnow⟩
    have hnone : v.found.fresh? v.query.now = none := by
      unfold fresh?
      split
      · next k hk => exact if_neg (Nat.not_lt.mpr (hold k hk))
      · rfl
    refine .inr ⟨hold, ?_⟩
    rcases v.query.reply.brings_or_fails with ⟨doc, hbrings, hkeys⟩ | ⟨fault, hfails, hkeys⟩
    · exact .inl ⟨doc, hbrings, Visit.lookup_of_keySet hnone hkeys⟩
    · refine .inr ⟨fault, hfails, ?_⟩
      simp only [Visit.lookup, find, hnone, hkeys]

/-- The cache holds what the look-ups so far have left in it: the last document that one of them
fetched, which counts until its time to live is over. -/
structure Tracks (c : KeyCache) (ttl : ℕ) (before : List Visit) : Prop where
  sameTtl : c.ttl = ttl
  empty : c.cached = none → ∀ w ∈ before, ∀ doc, ¬w.Fetched doc
  holds : ∀ k, c.cached = some k →
    ∃ w, IsLastFetch before w k.keys ∧ k.expiresAt = w.query.now + ttl

section Tracks
variable {v : Visit} {ttl : ℕ} {before : List Visit}

theorem IsLastFetch.mem {w : Visit} {doc : KeySet} (h : IsLastFetch before w doc) : w ∈ before := by
  obtain ⟨-, older, newer, rfl, -⟩ := h
  simp

/-- A look-up that fetched nothing does not come into it. -/
theorem IsLastFetch.concat {w : Visit} {doc : KeySet} (h : IsLastFetch before w doc)
    (hv : ∀ d, ¬v.Fetched d) : IsLastFetch (before ++ [v]) w doc := by
  obtain ⟨hw, older, newer, rfl, hnewer⟩ := h
  refine ⟨hw, older, newer ++ [v], by simp, fun x hx => ?_⟩
  rcases List.mem_append.mp hx with hx | hx
  · exact hnewer x hx
  · rw [List.mem_singleton.mp hx]
    exact hv

theorem isLastFetch_self {doc : KeySet} (h : v.Fetched doc) : IsLastFetch (before ++ [v]) v doc :=
  ⟨h, before, [], rfl, fun _ hx => absurd hx List.not_mem_nil⟩

theorem Tracks.concat_silent (h : v.found.Tracks ttl before) (hsame : v.lookup.cache = v.found)
    (hv : ∀ d, ¬v.Fetched d) : v.lookup.cache.Tracks ttl (before ++ [v]) where
  sameTtl := by rw [hsame, h.sameTtl]
  empty hnone w hw := by
    rw [hsame] at hnone
    rcases List.mem_append.mp hw with hw | hw
    · exact h.empty hnone w hw
    · rw [List.mem_singleton.mp hw]
      exact hv
  holds k hk := by
    rw [hsame] at hk
    obtain ⟨w, hlast, hexpires⟩ := h.holds k hk
    exact ⟨w, hlast.concat hv, hexpires⟩

/-- What a look-up leaves in the cache is what is to be found there after it. -/
theorem Tracks.next (h : v.found.Tracks ttl before) :
    v.lookup.cache.Tracks ttl (before ++ [v]) := by
  rcases lookup_cases v with
    ⟨k, -, -, hlookup⟩ | ⟨-, ⟨doc, hbrings, hlookup⟩ | ⟨fault, hfails, hlookup⟩⟩
  · refine h.concat_silent (by rw [hlookup]) fun d hd => ?_
    rw [Visit.Fetched, hlookup] at hd
    exact absurd hd.1 Bool.false_ne_true
  · have hfetched : v.Fetched doc := ⟨by rw [hlookup], hbrings⟩
    rw [hlookup]
    refine ⟨h.sameTtl, fun hnone => absurd hnone (Option.some_ne_none _), ?_⟩
    rintro k ⟨⟩
    exact ⟨v, isLastFetch_self hfetched, by rw [h.sameTtl]⟩
  · exact h.concat_silent (by rw [hlookup]) fun d hd => hfails.not_brings d hd.2

/-- Every cache that is found was left there by the look-ups before. -/
theorem tracks_of_split {c : KeyCache} {queries : List Query} {done after : List Visit}
    (h : c.Tracks ttl done) (hsplit : c.visits queries = before ++ v :: after) :
    v.found.Tracks ttl (done ++ before) := by
  induction queries generalizing c done before with
  | nil => simp [visits] at hsplit
  | cons q queries ih =>
      cases before with
      | nil =>
          cases hsplit
          rw [List.append_nil]
          exact h
      | cons w before =>
          obtain ⟨rfl, hrest⟩ := List.cons.inj hsplit
          have hnext := Tracks.next (v := ⟨c, q⟩) h
          simpa using ih hnext hrest

theorem tracks_empty (ttl : ℕ) : (KeyCache.mk ttl none).Tracks ttl [] :=
  ⟨rfl, fun _ _ hw => absurd hw List.not_mem_nil, fun _ hk => nomatch hk⟩

/-! ## All look-ups -/

/-- The times of the look-ups do not go back. -/
def InOrder (visits : List Visit) : Prop :=
  visits.Pairwise fun v w => v.query.now ≤ w.query.now

theorem map_query_visits (c : KeyCache) (queries : List Query) :
    (c.visits queries).map Visit.query = queries := by
  induction queries generalizing c with
  | nil => rfl
  | cons q queries ih => rw [visits, List.map_cons, ih]

theorem inOrder_visits {queries : List Query} (h : queries.Pairwise fun q r => q.now ≤ r.now)
    (c : KeyCache) : InOrder (c.visits queries) := by
  rw [← map_query_visits c queries, List.pairwise_map] at h
  exact h

/-- No document was fetched later. -/
theorem IsLastFetch.latest {w x : Visit} {doc d : KeySet} (h : IsLastFetch before w doc)
    (horder : InOrder before) (hmem : x ∈ before) (hx : x.Fetched d) :
    x.query.now ≤ w.query.now := by
  obtain ⟨-, older, newer, rfl, hnewer⟩ := h
  rcases List.mem_append.mp hmem with hmem | hmem
  · exact (List.pairwise_append.mp horder).2.2 x hmem w List.mem_cons_self
  · rcases List.mem_cons.mp hmem with rfl | hmem
    · exact le_rfl
    · exact absurd hx (hnewer x hmem d)

theorem Tracks.follows (h : v.found.Tracks ttl before) (horder : InOrder before) :
    v.Follows ttl before := by
  rcases lookup_cases v with
    ⟨k, hk, hnow, hlookup⟩ | ⟨hold, hlookup⟩
  · obtain ⟨w, hlast, hexpires⟩ := h.holds k hk
    rw [hexpires] at hnow
    have hfetched : v.lookup.fetched = false := by rw [hlookup]
    have hasked : v.lookup.fetched ≠ true := by simp [hfetched]
    exact {
      asks := iff_of_false hasked fun hnone =>
        hnone ⟨w, hlast.mem, ⟨k.keys, hlast.1⟩, hnow⟩
      fresh := fun _ => by
        rw [hlookup]
        exact ⟨rfl, w, k.keys, hlast, hnow, k.keys.answers_find v.query.kid⟩
      renewed := fun doc hdoc => absurd hdoc.1 hasked
      failed := fun fault htrue => absurd htrue hasked }
  · have hnone : ¬∃ w ∈ before, (∃ doc, w.Fetched doc) ∧ v.query.now < w.query.now + ttl := by
      rintro ⟨w, hw, ⟨doc, hdoc⟩, hnow⟩
      cases hcached : v.found.cached with
      | none => exact h.empty hcached w hw doc hdoc
      | some k =>
          obtain ⟨last, hlast, hexpires⟩ := h.holds k hcached
          have hlate := hlast.latest horder hw hdoc
          have := hold k hcached
          omega
    rcases hlookup with ⟨doc, hbrings, hlookup⟩ | ⟨fault, hfails, hlookup⟩
    · have hfetched : v.lookup.fetched = true := by rw [hlookup]
      exact {
        asks := iff_of_true hfetched hnone
        fresh := fun hfalse => by rw [hfetched] at hfalse; cases hfalse
        renewed := fun doc' hdoc' => by
          obtain rfl := hbrings.eq hdoc'.2
          rw [hlookup, h.sameTtl]
          exact ⟨rfl, doc.answers_find v.query.kid⟩
        failed := fun fault _ hfails => absurd hbrings (hfails.not_brings doc) }
    · have hfetched : v.lookup.fetched = true := by rw [hlookup]
      exact {
        asks := iff_of_true hfetched hnone
        fresh := fun hfalse => by rw [hfetched] at hfalse; cases hfalse
        renewed := fun doc hdoc => absurd hdoc.2 (hfails.not_brings doc)
        failed := fun fault' _ hfails' => by
          obtain rfl := hfails.eq hfails'
          rw [hlookup]
          exact ⟨rfl, rfl⟩ }

/-- After a failed request the next look-up makes another. -/
theorem Visit.Follows.asks_again {w : Visit} (h : v.Follows ttl before)
    (hw : w.Follows ttl (before ++ [v])) (hnow : v.query.now ≤ w.query.now)
    (hasked : v.lookup.fetched = true) {fault : InternalFault}
    (hfails : v.query.reply.Fails fault) :
    w.lookup.fetched = true := by
  refine hw.asks.mpr ?_
  rintro ⟨x, hx, ⟨doc, hdoc⟩, hlate⟩
  rcases List.mem_append.mp hx with hx | hx
  · exact h.asks.mp hasked ⟨x, hx, ⟨doc, hdoc⟩, by omega⟩
  · rw [List.mem_singleton.mp hx] at hdoc
    exact hfails.not_brings doc hdoc.2

/-- Every key that is given out stands in a document that was fetched just now or not too long
ago. -/
theorem Visit.Follows.fresh_key (h : v.Follows ttl before) {key : PublicKey}
    (hkey : v.lookup.result = .ok key) :
    key.kid = v.query.kid ∧ ∃ w doc, w.Fetched doc ∧ key ∈ doc.keys ∧
      (w = v ∨ w ∈ before ∧ v.query.now < w.query.now + ttl) := by
  cases hfetched : v.lookup.fetched with
  | false =>
      obtain ⟨-, w, doc, hlast, hnow, hanswers⟩ := h.fresh hfetched
      rw [hkey] at hanswers
      obtain ⟨hmem, hkid⟩ := hanswers.mem
      exact ⟨hkid, w, doc, hlast.1, hmem, .inr ⟨hlast.mem, hnow⟩⟩
  | true =>
      rcases v.query.reply.brings_or_fails with ⟨doc, hbrings, -⟩ | ⟨fault, hfails, -⟩
      · have hanswers := (h.renewed doc ⟨hfetched, hbrings⟩).2
        rw [hkey] at hanswers
        obtain ⟨hmem, hkid⟩ := hanswers.mem
        exact ⟨hkid, v, doc, ⟨hfetched, hbrings⟩, hmem, .inl rfl⟩
      · have hresult := (h.failed fault hfetched hfails).2
        rw [hkey] at hresult
        cases hresult

end Tracks

/-- In look-ups one after the other, each is told by those before it: whether it asks the endpoint,
from which document it answers, and what it leaves. After a failed request the next look-up makes
another, and every key that is given out stands in a document that was fetched just now or less than
the time to live ago. -/
theorem follows_of_visits {ttl : ℕ} {queries : List Query}
    (horder : queries.Pairwise fun q r => q.now ≤ r.now) {before after : List Visit} {v : Visit}
    (hsplit : (KeyCache.mk ttl none).visits queries = before ++ v :: after) :
    v.Follows ttl before ∧
      (∀ fault w rest, v.lookup.fetched = true → v.query.reply.Fails fault → after = w :: rest →
        w.lookup.fetched = true) ∧
      ∀ key, v.lookup.result = .ok key → key.kid = v.query.kid ∧
        ∃ w doc, w.Fetched doc ∧ key ∈ doc.keys ∧
          (w = v ∨ w ∈ before ∧ v.query.now < w.query.now + ttl) := by
  have hvisits : InOrder (before ++ v :: after) := hsplit ▸ inOrder_visits horder _
  obtain ⟨hbefore, hafter, -⟩ := List.pairwise_append.mp hvisits
  have hfollows := (tracks_of_split (tracks_empty ttl) hsplit).follows hbefore
  refine ⟨hfollows, fun fault w rest hasked hfails hrest => ?_, fun _ => hfollows.fresh_key⟩
  subst hrest
  have hnow : v.query.now ≤ w.query.now := (List.pairwise_cons.mp hafter).1 w List.mem_cons_self
  have hsplit' : (KeyCache.mk ttl none).visits queries = (before ++ [v]) ++ w :: rest := by
    rw [hsplit, List.append_assoc]
    rfl
  have hvisits' : InOrder ((before ++ [v]) ++ w :: rest) := hsplit' ▸ inOrder_visits horder _
  have hbefore' : InOrder (before ++ [v]) := (List.pairwise_append.mp hvisits').1
  exact hfollows.asks_again ((tracks_of_split (tracks_empty ttl) hsplit').follows hbefore') hnow
    hasked hfails

/-- What the endpoint sends when it is up. -/
def servedSet : KeySet := ⟨[Platform.sealedKey]⟩

def servedReply : Reply := .response 200 (Text.utf8 servedSet.toDoc.print)

/-- The endpoint does not reply, then it sends a document, and when this is too old it reports an
error of its own. -/
def expiring : List Query :=
  [⟨0, .unreachable, "test-key-03"⟩, ⟨1000, servedReply, "test-key-03"⟩,
    ⟨300000, .unreachable, "other"⟩, ⟨301000, .response 503 [], "test-key-03"⟩]

def emptyCache : KeyCache := ⟨300000, none⟩
def fullCache : KeyCache := ⟨300000, some ⟨servedSet, 301000⟩⟩

theorem lookup_served : (Visit.mk emptyCache ⟨1000, servedReply, "test-key-03"⟩).lookup =
    ⟨fullCache, true, servedSet.find "test-key-03"⟩ :=
  Visit.lookup_of_keySet rfl (Reply.keySet_response (by decide) servedSet)

/-- Until the document is there the cache is empty, and then it holds the document. -/
theorem visits_expiring : emptyCache.visits expiring =
    [⟨emptyCache, ⟨0, .unreachable, "test-key-03"⟩⟩,
      ⟨emptyCache, ⟨1000, servedReply, "test-key-03"⟩⟩,
      ⟨fullCache, ⟨300000, .unreachable, "other"⟩⟩] ++
    [⟨fullCache, ⟨301000, .response 503 [], "test-key-03"⟩⟩] := by
  have hfirst : (Visit.mk emptyCache ⟨0, .unreachable, "test-key-03"⟩).lookup.cache =
      emptyCache := rfl
  have hthird : (Visit.mk fullCache ⟨300000, .unreachable, "other"⟩).lookup.cache = fullCache := by
    simp only [Visit.lookup, find, fresh?, fullCache, Nat.reduceLT, if_true]
  simp only [expiring, visits, hfirst, lookup_served, hthird, List.cons_append, List.nil_append]

theorem follows_of_expiring :
    (expiring.Pairwise fun q r => q.now ≤ r.now) ∧
      ∃ before v, (KeyCache.mk 300000 none).visits expiring = before ++ [v] ∧
        v.Follows 300000 before ∧ (before.map fun w => w.lookup.fetched) = [true, true, false] ∧
        v.lookup.fetched = true ∧
        v.lookup.result = .error (.internal (.keySetStatus "503 Service Unavailable")) := by
  have horder : expiring.Pairwise fun q r => q.now ≤ r.now := by simp [expiring]
  refine ⟨horder, _, _, visits_expiring, (follows_of_visits horder visits_expiring).1, ?_, rfl, rfl⟩
  simp only [List.map_cons, lookup_served]
  rfl

end KeyCache

end Crowdlending.Token
