import Trackpal.Foundation.Session
import Trackpal.Foundation.IsoFormat
import Trackpal.Subscriptions.Reminders

/-!
# The rows of a subscription

The tables that the lifecycle of a subscription writes, the rows that it only reads, and what
a request for it may raise. An instant is in microseconds since the epoch.
-/

namespace Trackpal.Lifecycle

open Trackpal.Protocol Trackpal.Foundation Trackpal.Subscriptions

/-- A row of `subscriptions`. -/
structure Subscription where
  id : UUID
  tenantId : UUID
  clientId : UUID
  serviceId : UUID
  planId : UUID
  streamingEmail : String
  streamingPasswordEncrypted : Option String
  profileName : Option String
  profilePinEncrypted : Option String
  durationType : String
  startsAt : Int
  expiresAt : Int
  cancelledAt : Option Int
  status : SubscriptionStatus
deriving DecidableEq

inductive EventType where
  | created
  | updated
  | cancelled
  | reactivated
  | renewed
  | expired
deriving DecidableEq, Repr

/-- A row of `subscription_events`; nothing reads its id. -/
structure SubscriptionEvent where
  tenantId : UUID
  subscriptionId : UUID
  eventType : EventType
  notes : Option String
deriving DecidableEq

/-- The tables that are written. Events are in the order of their insertion. -/
structure Db where
  subscriptions : Table Subscription.id
  events : List SubscriptionEvent
  reminderLogs : ReminderLogs

structure ClientRow where
  id : UUID
  tenantId : UUID
deriving DecidableEq

structure ServiceRow where
  id : UUID
  tenantId : UUID
deriving DecidableEq

structure PlanRow where
  id : UUID
  tenantId : UUID
  serviceId : UUID
deriving DecidableEq

/-- The rows that are only read: the catalog, `tenants.plan` and `tenant_settings.timezone`. -/
structure Directory where
  clients : List ClientRow
  services : List ServiceRow
  plans : List PlanRow
  tenantPlan : UUID → Option String
  timezone : UUID → Option String

/-- What a request raises. -/
inductive Failure where
  /-- `UserFacingError`, with its code. -/
  | userFacing (code : String)
  | valueError (text : String)
  | typeError
  | integrityError (text : String)
  /-- What else the database raises. -/
  | database (text : String)
  /-- `MissingGreenlet`, for an object that a rollback has expired. -/
  | missingGreenlet
deriving DecidableEq

structure Holding where
  row : Option Subscription
  events : List SubscriptionEvent
  reminderLogs : List ReminderLog
deriving DecidableEq

def Db.holding (db : Db) (id : UUID) : Holding where
  row := db.subscriptions.get id
  events := db.events.filter (·.subscriptionId = id)
  reminderLogs := db.reminderLogs.rows.filter (·.subscriptionId = id)

end Trackpal.Lifecycle
