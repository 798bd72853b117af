import Deliivo.Domain.World

/-!
# Refresh tokens

A login issues a refresh token. Whoever presents it gets another one in exchange, and the one presented
is revoked; a logout revokes the one presented and issues none.

A refresh token is a signed text that no other one equals, and it is named by its row. What its signature
says is an argument of the call that presents it.

## Main definitions

* `generateTokens`: issue a refresh token
* `refreshTokenService`: exchange one for another
* `logoutService`: revoke one
-/

namespace Deliivo

/-- `generateTokens`: the refresh token that is issued; `report` says what for. -/
def generateTokens (userId : ℕ) (report : ℕ → List Event) : Service ℕ :=
  Program.perform <| .transact
    (fun ctx => do
      Program.command <| create refreshTokens ctx.uuid { userId := userId }
      return ctx.uuid)
    report

inductive RefreshResult
  | renewed (refreshToken userId : ℕ)
  | failed (reason : String)
  deriving DecidableEq, Repr

/-- `refreshTokenService`; `decoded` is the user that the signature names, or the error that verifying it
throws. -/
def refreshTokenService (decoded : Except Err ℕ) (refreshToken : ℕ) : Service RefreshResult :=
  Program.tryCatch
    (do
      let userId ← Program.ofExcept decoded
      let tokenDoc ← sql <| findFirst refreshTokens fun token row =>
        token == refreshToken && row.userId == userId && !row.revoked
      match tokenDoc with
      | none => return .failed "INVALID_REFRESH"
      | some (token, _) =>
        -- whoever has read the token revokes it
        let _ ← Program.perform <| .transact
          (fun _ => Program.perform <| update refreshTokens token fun row =>
            { row with revoked := true })
          fun _ => [.tokenSpent token]
        let user ← sql <| findFirst users fun id _ => id == userId
        match user with
        | none => return .failed "USER_NOT_FOUND"
        | some (id, _) =>
          let child ← generateTokens id fun child => [.tokenIssued token child]
          return .renewed child id)
    fun _ => return .failed "INTERNAL_ERROR"

inductive LogoutResult
  | loggedOut
  | failed (reason : String)
  deriving DecidableEq, Repr

/-- `logoutService`, from the moment at which it is called. -/
def logoutService (refreshToken : ℕ) : Service LogoutResult :=
  Program.tryCatch
    (do
      Program.command <| .note [.logoutCalled refreshToken]
      let updated ← Program.perform <| .transact
        (fun _ => Program.command <| updateMany refreshTokens (fun token _ => token == refreshToken)
          fun row => { row with revoked := true })
        fun updated => if updated.isEmpty then [] else [.tokenLoggedOut refreshToken]
      if updated.isEmpty then return .failed "Token not found"
      return .loggedOut)
    fun _ => return .failed "LOGOUT_FAILED"

end Deliivo
