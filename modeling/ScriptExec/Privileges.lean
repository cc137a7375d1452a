-- SUMMARY: Who decides about a change of user, and how.
import ScriptExec.Log.Record

/-!
# Privileges

A request to become another user is granted or refused as it was settled beforehand, refused with the
user's name, or left to the system, which needs an account of that name and the right to change
groups.
-/

namespace ScriptExec

inductive Privileges
  /-- Grants every request, and changes nothing. -/
  | grant
  /-- Refuses every request with the same text. -/
  | refuse (text : String)
  /-- Asks the system. -/
  | system
  /-- Refuses every request and names the user. -/
  | deny
  deriving DecidableEq, Repr, Inhabited

/-- Who this process is to the system. -/
structure Identity where
  isSuperuser : Bool := true
  /-- May take on other groups. -/
  mayChangeGroups : Bool := false
  accounts : List String
  deriving DecidableEq, Repr

namespace Identity

/-- The accounts that every host has. -/
def commonAccounts : List String :=
  ["root", "daemon", "bin", "sys", "sync", "games", "man", "lp", "mail", "news", "uucp", "proxy",
   "www-data", "backup", "list", "irc", "_apt", "nobody"]

/-- A superuser that may not change its groups. -/
def common : Identity :=
  { accounts := commonAccounts }

/-- Becomes another user, or tells why not. Who is no superuser has nothing to give up. -/
def become (identity : Identity) (user : String) : Except String Unit :=
  if !identity.isSuperuser then .ok ()
  else if !identity.accounts.contains user then .error s!"user '{user}' does not exist"
  else if !identity.mayChangeGroups then
    .error "setgroups failed: EPERM: Operation not permitted"
  else .ok ()

/-- What the log is told about a change of user. -/
def record? (identity : Identity) (user : String) : Option Log.Record :=
  if !identity.isSuperuser then
    some (.of .debug "exec::privileges" ["user"] "not running as root; privilege drop is a no-op")
  else
    match identity.become user with
    | .ok () => some (.of .info "exec::privileges" ["user", "uid", "gid"] "dropped privileges")
    | .error _ => none

end Identity

namespace Privileges

/-- The answer to a request. -/
def decide (privileges : Privileges) (identity : Identity) (user : String) : Except String Unit :=
  match privileges with
  | .grant => .ok ()
  | .refuse text => .error text
  | .system => identity.become user
  | .deny => .error s!"switching to user '{user}' is not permitted"

end Privileges

end ScriptExec
