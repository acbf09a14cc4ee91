import ChatRelay.Config
import ChatRelay.Http.App

/-! From settings to a relay that answers requests: the database file is opened, and the relay starts
with nobody connected. -/

namespace ChatRelay

/-- A relay over the content of a store, with nobody connected. -/
def Relay.ofDatabase (db : Store.Database) (queueCapacity : Nat) : Relay where
  store := { database := db }
  registry := .ofCapacity queueCapacity

namespace Config

/-- What the application is set up with. -/
def http (c : Config) : Http.Settings where
  secret := c.secret
  historyLimit := c.historyLimit
  errorAcks := c.errorAcks

/-- Opens the database file and starts a relay over it; and what the file holds afterwards. -/
def start (c : Config) (file : Store.File) : Except Store.Error Relay × Store.File :=
  match file.openFile with
  | (.ok db, file) => (.ok (.ofDatabase db c.queueCapacity), file)
  | (.error e, file) => (.error e, file)

end Config

end ChatRelay
