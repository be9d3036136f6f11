import Irpc.Protocol.Message
import Irpc.Server.TokenInvariant

/-! Uploads and downloads of files on a port of their own. -/
namespace Irpc.Server

open Irpc.Foundation Irpc.Protocol

structure FileTransferArgs where
  fileName : Bytes
  fileSize : Int64
  metadata : Option Metadata

structure DownloadFileArgs where
  fileName : Bytes
  metadata : Option Metadata

/-- A call of one of the methods of `FileTransferService`. -/
inductive TransferRequest where
  | transferFile (args : FileTransferArgs)
  | downloadFile (args : DownloadFileArgs)

inductive TransferInfo where
  | tokenInfo (args : FileTransferArgs)
  | downloadTokenInfo (args : DownloadFileArgs)

/-- The call of a handler for a connection. -/
inductive TransferCall (Handler DownloadHandler : Type) where
  | handler (handler : Handler) (args : FileTransferArgs)
  | downloadFileHandler (handler : DownloadHandler) (args : DownloadFileArgs)

/-- A nil handler is `none`. -/
structure FileTransfer (Handler DownloadHandler Cache : Type) where
  addr : Bytes
  advertiseAddr : Bytes
  handler : Option Handler
  downloadFileHandler : Option DownloadHandler
  tokens : EvictingMap Token TransferInfo Cache
  waitNum : Int

namespace FileTransfer

variable {Handler DownloadHandler Cache : Type} (transfer : FileTransfer Handler DownloadHandler Cache)

def transferFile (cachedTokens : Option Cache) (args : FileTransferArgs) (random : Except GoError Token) :
    Issuance Cache :=
  issueToken transfer.tokens transfer.addr transfer.advertiseAddr cachedTokens (.tokenInfo args) random

def downloadFile (cachedTokens : Option Cache) (args : DownloadFileArgs) (random : Except GoError Token) :
    Issuance Cache :=
  issueToken transfer.tokens transfer.addr transfer.advertiseAddr cachedTokens (.downloadTokenInfo args) random

def infoOf : TransferRequest → TransferInfo
  | .transferFile args => .tokenInfo args
  | .downloadFile args => .downloadTokenInfo args

def launch : TransferInfo → Option (TransferCall Handler DownloadHandler)
  | .tokenInfo args => transfer.handler.map fun handler => .handler handler args
  | .downloadTokenInfo args => transfer.downloadFileHandler.map fun handler => .downloadFileHandler handler args

def service : TokenService TransferRequest TransferInfo (TransferCall Handler DownloadHandler) Cache where
  addr := transfer.addr
  advertiseAddr := transfer.advertiseAddr
  cache := transfer.tokens
  waitNum := transfer.waitNum
  refuse _ := none
  infoOf := infoOf
  launch := transfer.launch

theorem grant_service (cachedTokens : Option Cache) (request : TransferRequest) (random : Except GoError Token) :
    transfer.service.grant cachedTokens request random =
      match request with
      | .transferFile args => transfer.transferFile cachedTokens args random
      | .downloadFile args => transfer.downloadFile cachedTokens args random := by
  cases request <;> rfl

/-- The call that a request asks for. -/
inductive Serves : TransferRequest → TransferCall Handler DownloadHandler → Prop where
  | upload (set : transfer.handler = some run) : Serves (.transferFile args) (.handler run args)
  | download (set : transfer.downloadFileHandler = some run) :
      Serves (.downloadFile args) (.downloadFileHandler run args)

theorem serves_of_launch (launches : transfer.launch (infoOf request) = some launched) :
    transfer.Serves request launched := by
  cases request with
  | transferFile args =>
    obtain ⟨handler, set, rfl⟩ := Option.map_eq_some_iff.mp launches
    exact .upload set
  | downloadFile args =>
    obtain ⟨handler, set, rfl⟩ := Option.map_eq_some_iff.mp launches
    exact .download set

/-- A handler is started once for a token, which was obtained by a request for this handler and
was not evicted. The connections whose token was read, or could not be read, are handed over or
closed. -/
theorem transfer_tokens_once (transfer : FileTransfer Handler DownloadHandler Cache)
    (reachable : transfer.service.system.Reachable state) :
    (state.started.map Handover.token).Nodup ∧
      (∀ handover ∈ state.started, handover.token ∉ state.evicted ∧
        (∃ request, (handover.token, request) ∈ state.issued) ∧
        ∀ request, (handover.token, request) ∈ state.issued → transfer.Serves request handover.launch) ∧
      (∀ conn, conn < state.accepted → state.loop ≠ .reading conn → transfer.service.Settles state conn) ∧
      TokenService.Accounted state := by
  have valid := TokenService.valid_of_reachable reachable
  refine ⟨valid.once, fun handover started => ⟨valid.live handover started, ?_, fun request issued => ?_⟩,
    fun conn accepted answered => TokenService.settles_of_reachable reachable accepted answered,
    TokenService.accounted_of_reachable reachable⟩
  · obtain ⟨request, issued, _⟩ := valid.paired handover started
    exact ⟨request, issued⟩
  · exact transfer.serves_of_launch (valid.launch_of_issued started issued)

def sampleTransfer : FileTransfer Unit Unit (Lru Token TransferInfo) :=
  ⟨utf8 ":8973", [], some (), some (), Lru.evictingMap, 2⟩

def uploadToken : Token := ⟨List.replicate 32 1, rfl⟩

def downloadToken : Token := ⟨List.replicate 32 2, rfl⟩

/-- Two tokens are issued, and the second one is presented twice. -/
def replay : List (TokenService.Event TransferRequest) :=
  [.request (.transferFile ⟨utf8 "a.txt", 3, none⟩) (.ok uploadToken),
    .request (.downloadFile ⟨utf8 "b.txt", none⟩) (.ok downloadToken),
    .accept, .read (some downloadToken), .advance, .advance, .advance,
    .accept, .read (some downloadToken), .advance]

theorem transfer_tokens_once_replay :
    ∃ state, sampleTransfer.service.system.play sampleTransfer.service.start replay = some state ∧
      state.started.map Handover.token = [downloadToken] ∧ state.closed = [1] ∧
      (state.started.map Handover.token).Nodup :=
  have played : sampleTransfer.service.system.play sampleTransfer.service.start replay = some _ := rfl
  ⟨_, played, rfl, rfl, (transfer_tokens_once sampleTransfer (.play (.start rfl) played)).1⟩

end FileTransfer

end Irpc.Server
