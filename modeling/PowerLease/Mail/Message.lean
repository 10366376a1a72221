import PowerLease.Calendar
import PowerLease.Mail.Body
import PowerLease.Mail.Header

/-!
# Messages

A message to be mailed: its sender, its recipient, its subject, its text and its date. It is written
as a header and a body with an empty line between them.
-/

namespace PowerLease.Mail

/-- A message. -/
structure Message where
  sender : Mailbox
  recipient : Mailbox
  subject : String
  body : String
  /-- The date as the header shows it. -/
  date : String
deriving DecidableEq, Repr

/-- The form of the body. -/
def Message.encoding (m : Message) : Encoding := .choose (Text.bytes m.body)

/-- The lines of the header. -/
def Message.headers (m : Message) : List (String × String) :=
  [("From", headerMailbox "From" m.sender), ("To", headerMailbox "To" m.recipient),
    ("Subject", headerText "Subject" m.subject), ("Content-Type", "text/plain; charset=utf-8"),
    ("Content-Transfer-Encoding", m.encoding.name), ("Date", m.date)]

/-- A line of the header. -/
def headerLine (h : String × String) : String := s!"{h.1}: {h.2}\r\n"

/-- The text of a message. -/
def Message.render (m : Message) : String :=
  String.join (m.headers.map headerLine) ++ "\r\n"
    ++ String.ofList (m.encoding.write m.body.toList)

end PowerLease.Mail
