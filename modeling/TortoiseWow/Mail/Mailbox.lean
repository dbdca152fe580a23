import Mathlib

/-!
The mailbox of a character: the mails of an online one in memory, with the size that
other threads read, and those of any in the table.
-/

namespace TortoiseWow.Mails

abbrev Guid := Nat

inductive MailState where
  | unchanged
  | changed
  | deleted
  deriving Repr, DecidableEq

structure Mail where
  messageID : Nat
  cod : UInt32 := 0
  state : MailState := .unchanged
  deriving Repr, DecidableEq

structure MailRow where
  id : Nat
  receiver : Guid
  cod : UInt32 := 0
  isDeleted : Bool := false
  deriving Repr, DecidableEq

def storedCount (rows : List MailRow) (receiver : Guid) : Nat :=
  rows.countP fun row => row.receiver == receiver && !row.isDeleted

structure Mailbox where
  mails : List Mail
  mailSize : UInt32
  published : mailSize = UInt32.ofNat mails.length

namespace Mailbox

def publish (mails : List Mail) : Mailbox := ⟨mails, UInt32.ofNat mails.length, rfl⟩

def getMailSize (box : Mailbox) : UInt32 := box.mailSize

def addMail (box : Mailbox) (mail : Mail) : Mailbox := publish (mail :: box.mails)

def removeMail (box : Mailbox) (id : Nat) : Mailbox :=
  publish (box.mails.eraseP fun mail => mail.messageID == id)

def loadMails (rows : List MailRow) (receiver : Guid) : Mailbox :=
  publish ((rows.filter fun row => row.receiver == receiver && !row.isDeleted).map
    fun row => { messageID := row.id, cod := row.cod })

/-- Changed mails are written and deleted ones leave the list. -/
def saveMails (box : Mailbox) : Mailbox :=
  publish ((box.mails.filter fun mail => mail.state != .deleted).map
    fun mail => { mail with state := .unchanged })

def markDeleted (id : Nat) : List Mail → List Mail
  | [] => []
  | mail :: rest =>
      if mail.messageID = id then
        (if mail.cod = 0 then { mail with state := .deleted } else mail) :: rest
      else mail :: markDeleted id rest

theorem length_markDeleted (id : Nat) (mails : List Mail) :
    (markDeleted id mails).length = mails.length := by
  induction mails with
  | nil => rfl
  | cons mail rest ih =>
      simp only [markDeleted]
      split
      · rfl
      · exact congrArg (· + 1) ih

/-- HandleMailDelete leaves the mail in the list until the next save. -/
def handleMailDelete (box : Mailbox) (id : Nat) : Mailbox where
  mails := markDeleted id box.mails
  mailSize := box.mailSize
  published := by rw [length_markDeleted, box.published]

end Mailbox

end TortoiseWow.Mails
