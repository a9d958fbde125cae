import LargeFiles.Remote.Connection

/-!
# Pools of connections

A pool opens one connection for each principal, with the principal's credentials, and keeps it
until it is told to forget it.
-/

namespace LargeFiles.Remote

/-- The connections that are kept, by their principals. -/
structure Pool where
  config : Config
  kept : List (Principal × Connection)
  deriving DecidableEq

namespace Pool

/-- A pool that keeps nothing yet. -/
def ofConfig (config : Config) : Pool := ⟨config, []⟩

/-- The number of connections that are kept. -/
def size (pool : Pool) : Nat := pool.kept.length

/-- The connection of a principal, which is opened if none is kept. -/
def connection (pool : Pool) (who : Principal) : Except RemoteError Connection × Pool :=
  match pool.kept.lookup who with
  | some kept => (.ok kept, pool)
  | none =>
    match Connection.open? pool.config (pool.config.credentialsFor who) with
    | .ok opened => (.ok opened, { pool with kept := pool.kept ++ [(who, opened)] })
    | .error error => (.error error, pool)

/-- Drops what is kept for a principal. -/
def forget (pool : Pool) (who : Principal) : Pool :=
  { pool with kept := pool.kept.filter (·.1 != who) }

@[simp] theorem config_connection (pool : Pool) (who : Principal) :
    (pool.connection who).2.config = pool.config := by
  unfold connection
  split
  · rfl
  · split <;> rfl

@[simp] theorem config_forget (pool : Pool) (who : Principal) :
    (pool.forget who).config = pool.config := rfl

end Pool

/-- A service that is reached over a network through a pool of connections. -/
structure Access where
  pool : Pool
  network : Http.Network
  deriving DecidableEq

namespace Access

/-- The client of a principal. -/
def client (who : Principal) : Session Access RemoteError (Client Access) :=
  .ofFunction fun access =>
    let (result, pool) := access.pool.connection who
    (result.map fun connection =>
        connection.client.onPart Access.network fun access network => { access with network },
      { access with pool })

/-- The clients of all principals. -/
def provider : Provider Access where
  client := client
  invalidate who access := { access with pool := access.pool.forget who }

end Access

end LargeFiles.Remote
