/-
  A password-reset token works once.

  The store accepts a reset token at most once in a run, only for the user it was issued to, and
  only while it is good (`Store/Reset`).  A request that resets a password presents the token first,
  and it goes on to change the password only if the token is accepted (`ResetTalk`).  So however
  requests with one token interleave, among each other and with whatever else is done to the store,
  at most one of them changes a password.
-/
import Gatehouse.Proofs.Pool
import Gatehouse.Proofs.Portal.Talk
import Gatehouse.Proofs.Service.Refresh
import Gatehouse.Proofs.Store.Reset

namespace Gatehouse.Portal

variable {ι : Type} [DecidableEq ι]

/-- A portal with the usual settings. -/
def plainPortal : Portal := ⟨Service.plainService, 10, "https://example.org/reset", false⟩

/-- The requests, all at their beginning, and the world they share. -/
def Request.start (p : Portal) (requests : ι → Request) (world : World Memory) :
    Pool ι fun i => Except ApiError (requests i).Reply :=
  ⟨fun i => (requests i).program p, world, []⟩

/-- The request has called the store to change a password. -/
def Changes (i : ι) (deeds : List (Deed ι)) : Prop :=
  ∃ user hash reply, (⟨.setPassword user hash, reply⟩ : Exchange) ∈ said i deeds

/-- A request changes a password only after its token was accepted. -/
theorem ResetTalk.consumed {token : String} {es : List Exchange} (h : ResetTalk token es)
    {user : Uuid} {hash : String} {reply : Except AuthError Unit}
    (hmem : (⟨.setPassword user hash, reply⟩ : Exchange) ∈ es) :
    (⟨.consumeReset (digestToken token), .ok user⟩ : Exchange) ∈ es := by
  cases h with
  | silent => simp at hmem
  | presented reply => simp at hmem
  | changed owner hash' reply' =>
    obtain ⟨⟨rfl, -⟩, -⟩ : (user = owner ∧ hash = hash') ∧ HEq reply reply' := by simpa using hmem
    simp
  | closed owner hash' reply' =>
    obtain ⟨⟨rfl, -⟩, -⟩ : (user = owner ∧ hash = hash') ∧ _ := by simpa using hmem
    simp

/-- Whatever the others do, a reset says what a reset says. -/
theorem resetTalk_run (p : Portal) (requests : ι → Request) (world : World Memory)
    (turns : List (Turn ι)) {i : ι} {token password confirmation : String}
    (hi : requests i = .resetPassword token password confirmation) :
    ResetTalk token (said i ((Request.start p requests world).run turns).deeds) := by
  have hsays := (Pool.accounts_run (fun i => (requests i).program p) world turns).says_said i
  change ((requests i).program p).Says _ at hsays
  rw [hi] at hsays
  exact resetTalk hsays

/-- A reset that has said more than to present its token has come to change a password. -/
theorem ResetTalk.changes {token : String} {es : List Exchange} (h : ResetTalk token es)
    (hlength : 2 ≤ es.length) :
    ∃ user hash reply, (⟨.setPassword user hash, reply⟩ : Exchange) ∈ es := by
  cases h with
  | silent => simp at hlength
  | presented reply => simp at hlength
  | changed user hash reply => exact ⟨user, hash, reply, by simp⟩
  | closed user hash reply => exact ⟨user, hash, .ok (), by simp⟩

/-- Two things that stand in a list stand in one order or the other. -/
theorem exists_split_of_mem {γ : Type} {l : List γ} {a b : γ} (ha : a ∈ l) (hb : b ∈ l)
    (hne : a ≠ b) :
    (∃ x y z, l = x ++ a :: y ++ b :: z) ∨ (∃ x y z, l = x ++ b :: y ++ a :: z) := by
  obtain ⟨x, y, rfl⟩ := List.append_of_mem ha
  rcases List.mem_append.1 hb with hb | hb
  · obtain ⟨u, v, rfl⟩ := List.append_of_mem hb
    exact Or.inr ⟨u, v, y, rfl⟩
  · obtain ⟨u, v, rfl⟩ := List.append_of_mem ((List.mem_cons.1 hb).resolve_left hne.symm)
    exact Or.inl ⟨x, u, v, by simp⟩

/-- A token that was accepted is not accepted again. -/
theorem not_accepted_twice {α : ι → Type} {start p : Pool ι α} (h : Pool.Accounts start p)
    {digest : String} {i j : ι} {t t' : Instant} {user user' : Uuid} {x y z : List (Deed ι)}
    (hdeeds : p.deeds = x ++ .exchanged i t ⟨.consumeReset digest, .ok user⟩ :: y ++
      .exchanged j t' ⟨.consumeReset digest, .ok user'⟩ :: z) : False := by
  have hfirst := h.reply (hdeeds.trans (List.append_assoc ..))
  have hsecond := h.reply hdeeds
  -- after the first the record is used, and it stays so until the second
  have hused := Memory.used_run (Memory.used_of_consumes (Memory.consumes_of_ok hfirst.symm)).2
    (y.map Deed.step)
  refine (Memory.used_of_consumes (Memory.consumes_of_ok hsecond.symm)).1 ?_
  rw [List.map_append, Memory.run_append]
  exact hused

/-- **One reset for one token**: of all requests with one token, however they interleave with each
other and with whatever else is done, at most one comes to change a password. -/
theorem eq_of_changes (p : Portal) (requests : ι → Request) (world : World Memory)
    (turns : List (Turn ι)) {token : String} {i j : ι} {password confirmation : String}
    {password' confirmation' : String}
    (hi : requests i = .resetPassword token password confirmation)
    (hj : requests j = .resetPassword token password' confirmation')
    (changed : Changes i ((Request.start p requests world).run turns).deeds)
    (changed' : Changes j ((Request.start p requests world).run turns).deeds) : i = j := by
  have accounts := Pool.accounts_run (fun i => (requests i).program p) world turns
  -- each of the two was told that the token is good
  have told {k : ι} {password confirmation : String}
      (hk : requests k = .resetPassword token password confirmation)
      (hchanged : Changes k ((Request.start p requests world).run turns).deeds) :
      ∃ t user, .exchanged k t ⟨.consumeReset (digestToken token), .ok user⟩ ∈
        ((Request.start p requests world).run turns).deeds := by
    obtain ⟨user, hash, reply, hmem⟩ := hchanged
    obtain ⟨t, ht⟩ := mem_said.1 ((resetTalk_run p requests world turns hk).consumed hmem)
    exact ⟨t, user, ht⟩
  obtain ⟨t, user, hin⟩ := told hi changed
  obtain ⟨t', user', hin'⟩ := told hj changed'
  by_contra hne
  rcases exists_split_of_mem hin hin' (by simp [hne]) with ⟨x, y, z, hsplit⟩ | ⟨x, y, z, hsplit⟩
  · exact not_accepted_twice accounts hsplit
  · exact not_accepted_twice accounts hsplit

/-- **A password-reset token works once, and only for its owner.**  In every run of the store from
the empty one, and for every digest:

1. at most one presentation of the token is accepted;
2. one that is accepted names the user of an earlier insertion, and the token has not expired;
3. after an insertion the first presentation is accepted in time, no presentation is accepted for
   another user or too late, and no further insertion of the digest changes anything;
4. a token that is used stays used.

And however requests with the token interleave, with each other and with whatever else is done to
the store, at most one of them comes to change a password. -/
theorem reset_token_works_once (p : Portal) (digest : String) :
    (∀ steps, (Memory.history {} steps).countP (Memory.consumes digest) ≤ 1) ∧
    (∀ before now user, ((Memory.run {} before).consumeReset now digest).1 = .ok user →
      ∃ first t expiresAt rest,
        before = first ++ ⟨t, .call (.insertReset digest user expiresAt)⟩ :: rest ∧
        ((Memory.run {} first).insertReset t digest user expiresAt).1 = .ok () ∧
        now < expiresAt) ∧
    (∀ first t user expiresAt,
      ((Memory.run {} first).insertReset t digest user expiresAt).1 = .ok () →
      ∀ rest, let m := Memory.run {} (first ++
          ⟨t, .call (.insertReset digest user expiresAt)⟩ :: rest)
        ((∀ s ∈ rest, s.operation ≠ .call (.consumeReset digest)) →
          ∀ now, now < expiresAt → (m.consumeReset now digest).1 = .ok user) ∧
        (∀ now owner, (m.consumeReset now digest).1 = .ok owner →
          owner = user ∧ now < expiresAt) ∧
        ∀ now owner expiry, m.insertReset now digest owner expiry =
          (.error (.internal "duplicate password reset digest"), m)) ∧
    (∀ before after, (Memory.run {} before).Used digest →
      (Memory.run {} (before ++ after)).Used digest) ∧
    ∀ {ι : Type} [DecidableEq ι] (requests : ι → Request) (world : World Memory)
      (turns : List (Turn ι)) (i j : ι) (token password confirmation password' confirmation'),
      requests i = .resetPassword token password confirmation →
      requests j = .resetPassword token password' confirmation' →
      Changes i ((Request.start p requests world).run turns).deeds →
      Changes j ((Request.start p requests world).run turns).deeds → i = j := by
  refine ⟨fun steps => Memory.countP_consumes_le_one {} digest steps, ?_, ?_, ?_, ?_⟩
  · intro before now user h
    obtain ⟨r, good, rfl⟩ := Memory.consumeReset_eq_ok_iff.1 h
    obtain ⟨first, t, rest, hsteps, hok⟩ := Memory.exists_insertReset (m := {}) rfl good.known
    exact ⟨first, t, r.expiresAt, rest, hsteps, hok, good.unexpired⟩
  · intro first t user expiresAt issued rest
    rw [Memory.run_append]
    exact ⟨fun hrest now hnow => Memory.consumeReset_of_not_presented issued hrest hnow,
      fun now owner h => Memory.owner_of_consumeReset issued h,
      Memory.insertReset_again issued rest⟩
  · intro before after h
    rw [Memory.run_append]
    exact Memory.used_run h after
  · intro ι _ requests world turns i j token password confirmation password' confirmation' hi hj
    exact eq_of_changes p requests world turns hi hj

/-- The registration of an account, and a reset token for it. -/
def invitation : List Memory.Step :=
  [⟨0, .register ⟨.ofNat 1, "a@example.org", none, "learner"⟩ ""⟩,
    ⟨0, .call (.insertReset (digestToken "token") (.ofNat 1) 3600)⟩]

/-- Two requests with that token. -/
def race : Bool → Request
  | true => .resetPassword "token" "new password" "new password"
  | false => .resetPassword "token" "other password" "other password"

/-- The requests after three turns each, the first one step ahead of the second. -/
def raced : Pool Bool fun i => Except ApiError (race i).Reply :=
  (Request.start plainPortal race
    { now := 1, entropy := ⟨fun _ _ => .error "", .ok (.replicate 16 0)⟩
      store := .run {} invitation }).run
    [.go true, .go false, .go true, .go false, .go true, .go false]

/-- The token is accepted in time for its owner and used then; and of the two requests the one that
presents it first changes the password, and the other does not. -/
theorem reset_token_works_once_race :
    ((Memory.run {} (invitation.take 1)).insertReset 0 (digestToken "token") (.ofNat 1) 3600).1 =
      .ok () ∧
    ((Memory.run {} invitation).consumeReset 1 (digestToken "token")).1 = .ok (.ofNat 1) ∧
    (Memory.run {} (invitation ++ [⟨1, .call (.consumeReset (digestToken "token"))⟩] ++
      [⟨2, .call (.consumeReset (digestToken "token"))⟩])).Used (digestToken "token") ∧
    Changes true raced.deeds ∧ ¬ Changes false raced.deeds := by
  obtain ⟨-, -, hissued, hused, hrace⟩ :=
    reset_token_works_once plainPortal (digestToken "token")
  have issued : ((Memory.run {} (invitation.take 1)).insertReset 0 (digestToken "token")
      (.ofNat 1) 3600).1 = .ok () := by
    rw [Memory.insertReset_of_fresh rfl]
  have accepted := (hissued _ _ _ _ issued []).1 (by simp) 1 (by decide)
  have used : (Memory.run {} (invitation ++
      [⟨1, .call (.consumeReset (digestToken "token"))⟩])).Used (digestToken "token") := by
    rw [Memory.run_append]
    exact (Memory.used_of_consumes (Memory.consumes_of_ok accepted)).2
  have changed : Changes true raced.deeds :=
    (resetTalk_run plainPortal race _ _ rfl).changes (by decide +kernel)
  refine ⟨issued, accepted, hused _ _ used, changed, fun changed' => ?_⟩
  exact Bool.false_ne_true (hrace race _ _ false true _ _ _ _ _ rfl rfl changed' changed)

end Gatehouse.Portal
