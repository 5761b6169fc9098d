import TlshubEbpf.Api.Tlshub
import TlshubEbpf.Netlink.Requests

/-! # The requests of the user-space API

Each of the three functions sends its own request, and nothing else.  The header
is in the context that the thread keeps, where every call finds it as the first
call left it, but for the process id. -/

set_option autoImplicit false

namespace TlshubEbpf.Api

open TlshubEbpf.Lib TlshubEbpf.Netlink Program

section Sending
variable (env : Env) (stack : MyMsg) (pods : PodTuple)

theorem initUserNetlink_sendsNothing : SendsNothing (initUserNetlink env) := by
  apply keeps_bind sent _ _ (sendsNothing_socket env)
  intro skFd
  apply keeps_ite sent _ _ _ (keeps_pure sent (-1))
  apply keeps_bind sent _ _ (sendsNothing_bind env skFd env.tid)
  intro bound
  apply keeps_ite sent _ _ _ _ (keeps_pure sent skFd)
  exact keeps_bind sent _ _ (sendsNothing_close skFd) fun _ => keeps_pure sent (-1)

theorem mallocNetlinkPkthdr_sendsNothing : SendsNothing (mallocNetlinkPkthdr env) := by
  apply keeps_bind sent _ _ (sendsNothing_malloc env)
  intro allocated
  exact keeps_ite sent _ _ _ (fun _ => rfl) (keeps_pure sent _)

theorem mallocNetlinkPkthdr_returns (w w' : Thread) (nlh : NlmsgHdr)
    (ran : mallocNetlinkPkthdr env w = (.returned nlh, w')) :
    nlh = ⟨requestLen, 0, 0, 0, env.tid⟩ := by
  simp only [mallocNetlinkPkthdr, bind_apply, malloc] at ran
  split at ran
  · cases ran
  · cases ran
    rfl

theorem tlshubServiceInit_sendsOnly :
    SendsOnly (serviceInitRequest env stack) (tlshubServiceInit env stack) := by
  apply sendsOnly_after _ _ _ (initUserNetlink_sendsNothing env)
  intro skFd
  apply appends_ite sent _ _ _ _ (sendsOnly_pure _ _)
  apply appends_bind_of sent _ (· = ⟨requestLen, 0, 0, 0, env.tid⟩) _ _
    (mallocNetlinkPkthdr_returns env)
    (sendsOnly_of_nothing _ _ (mallocNetlinkPkthdr_sendsNothing env))
  rintro nlh rfl
  apply appends_bind sent _ _ _ (sendsOnly_sendto env skFd kernelAddr _)
  intro ret
  apply appends_ite sent
  · exact sendsOnly_after _ _ _ (sendsNothing_close skFd)
      fun _ => sendsOnly_of_nothing _ _ fun _ => rfl
  · exact sendsOnly_of_nothing _ _ (sendsNothing_waitLoop skFd (fun _ vars => vars) (pure (-2))
      serviceInitSwitch _ (keeps_pure sent (-2)) fun verdict =>
        keeps_bind sent _ _ (sendsNothing_close skFd) fun _ => keeps_pure sent verdict)

/-- The header, if there is one, is as `netlink_ctx_alloc_msg` leaves it, but for the
process id. -/
def PreparedHdr (nlh : Option NlmsgHdr) : Prop :=
  ∀ hdr, nlh = some hdr → ∃ pid, hdr = ⟨requestLen, 0, 0, 0, pid⟩

theorem netlinkCtxInit_sendsNothing (ctx : NetlinkCtx) :
    SendsNothing (netlinkCtxInit env ctx) := by
  apply keeps_ite sent _ _ _ (keeps_pure sent (0, ctx))
  apply keeps_bind sent _ _ (sendsNothing_socket env)
  intro fd
  apply keeps_ite sent _ _ _ (keeps_pure sent _)
  apply keeps_bind sent _ _ (sendsNothing_bind env fd env.tid)
  intro bound
  apply keeps_ite sent _ _ _ _ (keeps_pure sent _)
  exact keeps_bind sent _ _ (sendsNothing_close fd) fun _ => keeps_pure sent _

theorem netlinkCtxInit_returns (ctx : NetlinkCtx) (w w' : Thread) (result : Int × NetlinkCtx)
    (ran : netlinkCtxInit env ctx w = (.returned result, w')) : result.2.nlh = ctx.nlh := by
  by_cases kept : ctx.skFd ≠ -1
  · rw [netlinkCtxInit_kept env ctx w kept] at ran
    cases ran
    rfl
  · have unset : ctx.skFd = -1 := not_not.mp kept
    cases created : env.socketOk w.calls with
    | false =>
        rw [netlinkCtxInit_no_socket env ctx w unset created] at ran
        cases ran
        rfl
    | true =>
        cases granted : env.bindOk w.opened.calls (freshFd w.calls) env.tid with
        | false =>
            rw [netlinkCtxInit_not_bound env ctx w unset created granted] at ran
            cases ran
            rfl
        | true =>
            rw [netlinkCtxInit_bound env ctx w unset created granted] at ran
            cases ran
            rfl

theorem netlinkCtxAllocMsg_sendsNothing (ctx : NetlinkCtx) :
    SendsNothing (netlinkCtxAllocMsg env ctx) := by
  apply keeps_ite sent _ _ _ (keeps_pure sent (0, ctx))
  apply keeps_bind sent _ _ (sendsNothing_malloc env)
  intro allocated
  exact keeps_ite sent _ _ _ (keeps_pure sent _) (keeps_pure sent _)

theorem netlinkCtxAllocMsg_returns (ctx : NetlinkCtx) (prepared : PreparedHdr ctx.nlh)
    (w w' : Thread) (result : Int × NetlinkCtx)
    (ran : netlinkCtxAllocMsg env ctx w = (.returned result, w')) :
    PreparedHdr result.2.nlh := by
  by_cases kept : ctx.nlh ≠ none
  · rw [netlinkCtxAllocMsg_kept env ctx w kept] at ran
    cases ran
    exact prepared
  · have unset : ctx.nlh = none := not_not.mp kept
    cases allocated : env.mallocOk w.calls with
    | false =>
        rw [netlinkCtxAllocMsg_full env ctx w unset allocated] at ran
        cases ran
        exact prepared
    | true =>
        rw [netlinkCtxAllocMsg_allocated env ctx w unset allocated] at ran
        cases ran
        rintro hdr same
        exact ⟨0, (Option.some.inj same).symm⟩

theorem netlinkCtxCleanup_sendsNothing (ctx : NetlinkCtx) (closeSocket : Bool) :
    SendsNothing (netlinkCtxCleanup ctx closeSocket) := by
  apply keeps_ite sent _ _ _ _ (keeps_pure sent _)
  exact keeps_bind sent _ _ (sendsNothing_close _) fun _ => keeps_pure sent _

theorem exit_sendsOnly {α : Type} (request : Request) (code : Int) :
    SendsOnly request (Program.exit code : Program Thread α) :=
  sendsOnly_of_nothing request _ fun _ => rfl

theorem cleanup_sendsOnly {α : Type} (request : Request) (ctx : NetlinkCtx)
    (next : NetlinkCtx → Program Thread α) (ends : ∀ ctx, SendsOnly request (next ctx)) :
    SendsOnly request (netlinkCtxCleanup ctx true >>= next) :=
  sendsOnly_after _ _ _ (netlinkCtxCleanup_sendsNothing ctx true) ends

theorem tlshubFetchKey_sendsOnly :
    SendsOnly (fetchRequest env stack pods) (tlshubFetchKey env stack pods) := by
  apply appends_bind_of sent _ (fun result => result.2.nlh = none) _ _
    (netlinkCtxInit_returns env NetlinkCtx.initial)
    (sendsOnly_of_nothing _ _ (netlinkCtxInit_sendsNothing env NetlinkCtx.initial))
  rintro ⟨ret, ctx⟩ unset
  apply appends_ite sent _ _ _ _ (sendsOnly_pure _ _)
  have fresh : PreparedHdr ctx.nlh := by
    rintro hdr same
    rw [show ctx.nlh = none from unset] at same
    cases same
  apply appends_bind_of sent _ (fun result => PreparedHdr result.2.nlh) _ _
    (netlinkCtxAllocMsg_returns env ctx fresh)
    (sendsOnly_of_nothing _ _ (netlinkCtxAllocMsg_sendsNothing env ctx))
  rintro ⟨ret, ctx⟩ prepared
  refine appends_ite sent _ _ _ _ ?_ ?_
  · exact cleanup_sendsOnly _ ctx _ fun _ => sendsOnly_pure _ _
  · cases kept : ctx.nlh with
    | none => exact sendsOnly_of_nothing _ _ fun _ => rfl
    | some hdr =>
        obtain ⟨pid, rfl⟩ := prepared hdr kept
        apply appends_bind sent _ _ _ (sendsOnly_sendto env ctx.skFd ctx.daddr _)
        intro ret
        apply appends_ite sent
        · exact cleanup_sendsOnly _ ctx _ fun _ => exit_sendsOnly _ _
        · apply sendsOnly_after _ _ _ (sendsNothing_recvfrom ctx.skFd fun _ vars => vars)
          intro received
          apply appends_ite sent
          · exact cleanup_sendsOnly _ ctx _ fun _ => exit_sendsOnly _ _
          · exact cleanup_sendsOnly _ ctx _ fun _ => sendsOnly_pure _ _

theorem setCtx_sendsNothing (ctx : NetlinkCtx) : SendsNothing (setCtx ctx) :=
  keeps_modify sent _ fun _ => rfl

def startRequest : Request :=
  ⟨⟨requestLen, 0, 0, 0, env.tid⟩, handshakeMsg env stack pods⟩

theorem tlshubHandshake_sends (w : Thread) (kept : PreparedHdr w.vars.gNetlinkCtx.nlh) :
    ∃ added, sent (tlshubHandshake env stack pods w).2 = sent w ++ added ∧
      ∀ request ∈ added, request = startRequest env stack pods := by
  apply appends_bind_of sent _ (fun result => result.2.nlh = w.vars.gNetlinkCtx.nlh) _ _
    (netlinkCtxInit_returns env w.vars.gNetlinkCtx)
    (sendsOnly_of_nothing _ _ (netlinkCtxInit_sendsNothing env w.vars.gNetlinkCtx))
  rintro ⟨ret, ctx⟩ same
  apply sendsOnly_after _ _ _ (setCtx_sendsNothing ctx)
  intro _
  refine appends_ite sent _ _ _ _ (sendsOnly_pure _ _) ?_
  have fresh : PreparedHdr ctx.nlh := by
    rw [show ctx.nlh = w.vars.gNetlinkCtx.nlh from same]
    exact kept
  apply appends_bind_of sent _ (fun result => PreparedHdr result.2.nlh) _ _
    (netlinkCtxAllocMsg_returns env ctx fresh)
    (sendsOnly_of_nothing _ _ (netlinkCtxAllocMsg_sendsNothing env ctx))
  rintro ⟨ret, ctx⟩ prepared
  apply sendsOnly_after _ _ _ (setCtx_sendsNothing ctx)
  intro _
  refine appends_ite sent _ _ _ _ (sendsOnly_pure _ _) ?_
  cases found : ctx.nlh with
  | none => exact sendsOnly_of_nothing _ _ fun _ => rfl
  | some hdr =>
      obtain ⟨pid, rfl⟩ := prepared hdr found
      apply sendsOnly_after _ _ _ (setCtx_sendsNothing _)
      intro _
      refine appends_ite sent _ _ _ _ (sendsOnly_pure _ _) ?_
      apply appends_bind sent _ _ _ (sendsOnly_sendto env ctx.skFd ctx.daddr _)
      intro ret
      refine appends_ite sent _ _ _ _ ?_ ?_
      · exact cleanup_sendsOnly _ ctx _ fun ctx =>
          sendsOnly_after _ _ _ (setCtx_sendsNothing ctx) fun _ => exit_sendsOnly _ _
      · exact sendsOnly_of_nothing _ _ (sendsNothing_waitLoop ctx.skFd storeDaddr (pure (-2))
          apiHandshakeSwitch pure (keeps_pure sent (-2)) fun verdict => keeps_pure sent verdict)

end Sending
end TlshubEbpf.Api
