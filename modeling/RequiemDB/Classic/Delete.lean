import RequiemDB.Sql.Operation

/-!
# Deleting messages

The functions of `classic-delete.c`, with their statements in the order of the
source.
-/

namespace RequiemDB

open Lib

/-- The loop of `delete_message` and its two ends. -/
def deleteEach : List Delete → Sql Int
  | [] => .perform .transactionEnd .done
  | query :: queries => .perform (.delete query) fun ret =>
      if ret < 0 then .perform .transactionAbort fun tmp => .done (if tmp < 0 then tmp else ret)
      else deleteEach queries

def deleteMessage (queries : IdentTest → List Delete) (idents : IdentTest) : Sql Int :=
  checked (.perform .transactionStart .done) (deleteEach (queries idents))

/-- The `queries` of `do_delete_alert`. -/
def alertQueries (idents : IdentTest) : List Delete :=
  [⟨.action, .any, idents⟩,
    ⟨.additionalData, .is .A, idents⟩,
    ⟨.address, .isNot .H, idents⟩,
    ⟨.alert, .any, idents⟩,
    ⟨.alertident, .any, idents⟩,
    ⟨.analyzer, .is .A, idents⟩,
    ⟨.analyzerTime, .is .A, idents⟩,
    ⟨.assessment, .any, idents⟩,
    ⟨.classification, .any, idents⟩,
    ⟨.reference, .any, idents⟩,
    ⟨.confidence, .any, idents⟩,
    ⟨.correlationAlert, .any, idents⟩,
    ⟨.createTime, .is .A, idents⟩,
    ⟨.detectTime, .any, idents⟩,
    ⟨.file, .any, idents⟩,
    ⟨.fileAccess, .any, idents⟩,
    ⟨.fileAccessPermission, .any, idents⟩,
    ⟨.impact, .any, idents⟩,
    ⟨.inode, .any, idents⟩,
    ⟨.checksum, .any, idents⟩,
    ⟨.linkage, .any, idents⟩,
    ⟨.node, .isNot .H, idents⟩,
    ⟨.overflowAlert, .any, idents⟩,
    ⟨.process, .isNot .H, idents⟩,
    ⟨.processArg, .isNot .H, idents⟩,
    ⟨.processEnv, .isNot .H, idents⟩,
    ⟨.snmpService, .any, idents⟩,
    ⟨.service, .any, idents⟩,
    ⟨.source, .any, idents⟩,
    ⟨.target, .any, idents⟩,
    ⟨.toolAlert, .any, idents⟩,
    ⟨.user, .any, idents⟩,
    ⟨.userId, .any, idents⟩,
    ⟨.webService, .any, idents⟩,
    ⟨.webServiceArg, .any, idents⟩]

/-- The `queries` of `do_delete_heartbeat`. -/
def heartbeatQueries (idents : IdentTest) : List Delete :=
  [⟨.additionalData, .is .H, idents⟩,
    ⟨.address, .is .H, idents⟩,
    ⟨.analyzer, .is .H, idents⟩,
    ⟨.analyzerTime, .is .H, idents⟩,
    ⟨.createTime, .is .H, idents⟩,
    ⟨.node, .is .H, idents⟩,
    ⟨.process, .is .H, idents⟩,
    ⟨.processArg, .is .H, idents⟩,
    ⟨.processEnv, .is .H, idents⟩,
    ⟨.heartbeat, .any, idents⟩]

def doDeleteAlert : IdentTest → Sql Int := deleteMessage alertQueries

def doDeleteHeartbeat : IdentTest → Sql Int := deleteMessage heartbeatQueries

def classicDeleteAlert (ident : Nat) : Sql Int := doDeleteAlert (.equal ident)

def classicDeleteHeartbeat (ident : Nat) : Sql Int := doDeleteHeartbeat (.equal ident)

/-- A success answers the number of idents of the list. -/
def deleteFromList (doDelete : IdentTest → Sql Int) (idents : List Nat) : Sql Int :=
  doDelete (.among idents) >>= fun ret => .done (if ret < 0 then ret else idents.length)

def classicDeleteAlertFromList : List Nat → Sql Int := deleteFromList doDeleteAlert

def classicDeleteHeartbeatFromList : List Nat → Sql Int := deleteFromList doDeleteHeartbeat

/-- The idents that are left in the answer to a query; without one no statement is sent. -/
def deleteFromResultIdents (doDelete : IdentTest → Sql Int) (idents : List Nat) : Sql Int :=
  if idents = [] then .done 0 else deleteFromList doDelete idents

def classicDeleteAlertFromResultIdents : List Nat → Sql Int :=
  deleteFromResultIdents doDeleteAlert

def classicDeleteHeartbeatFromResultIdents : List Nat → Sql Int :=
  deleteFromResultIdents doDeleteHeartbeat

end RequiemDB
