/-
**Connecting to a database and bringing its tables up to date.**

* `Answering` — what happens at an address: nobody answers, the server refuses, or it takes
  statements.
* `migration` — the statements that bring the tables up to date, and those that keep account of it.
* `connect` — the error with which connecting ends, if it does.
-/

import AccessControl.Settings
import AccessControl.Sql.Session
import AccessControl.Text.Bytes

namespace AccessControl.Sql

/-- What happens at an address. A server that takes statements still fails some of them. -/
inductive Answering where
  | nobody
  | refusing (refusal : Refusal)
  | accepting (fails : String → Bool)

def schema : List String :=
  ["-- Authorization engine schema",
    "CREATE TABLE IF NOT EXISTS authz_users ( id BIGSERIAL PRIMARY KEY, " ++
      "username TEXT NOT NULL UNIQUE, created_at TIMESTAMPTZ NOT NULL DEFAULT NOW() );",
    "CREATE TABLE IF NOT EXISTS authz_resources ( id BIGSERIAL PRIMARY KEY, " ++
      "name TEXT NOT NULL UNIQUE, description TEXT, parent_id BIGINT, " ++
      "created_at TIMESTAMPTZ NOT NULL DEFAULT NOW(), " ++
      "updated_at TIMESTAMPTZ NOT NULL DEFAULT NOW(), " ++
      "CONSTRAINT authz_resources_parent_fk FOREIGN KEY (parent_id) " ++
      "REFERENCES authz_resources (id) ON DELETE RESTRICT );",
    "CREATE INDEX IF NOT EXISTS idx_authz_resources_parent ON authz_resources (parent_id);",
    "CREATE TABLE IF NOT EXISTS authz_actions ( id BIGSERIAL PRIMARY KEY, " ++
      "name TEXT NOT NULL UNIQUE, description TEXT, " ++
      "created_at TIMESTAMPTZ NOT NULL DEFAULT NOW(), " ++
      "updated_at TIMESTAMPTZ NOT NULL DEFAULT NOW() );",
    "CREATE TABLE IF NOT EXISTS authz_roles ( id BIGSERIAL PRIMARY KEY, " ++
      "name TEXT NOT NULL UNIQUE, description TEXT, " ++
      "status TEXT NOT NULL DEFAULT 'active' CHECK (status IN ('active', 'inactive')), " ++
      "created_at TIMESTAMPTZ NOT NULL DEFAULT NOW() );",
    "CREATE TABLE IF NOT EXISTS authz_user_roles ( " ++
      "user_id BIGINT NOT NULL REFERENCES authz_users (id) ON DELETE CASCADE, " ++
      "role_id BIGINT NOT NULL REFERENCES authz_roles (id) ON DELETE CASCADE, " ++
      "assigned_seq BIGSERIAL, PRIMARY KEY (user_id, role_id) );",
    "CREATE TABLE IF NOT EXISTS authz_role_hierarchy ( " ++
      "parent_id BIGINT NOT NULL REFERENCES authz_roles (id) ON DELETE CASCADE, " ++
      "child_id BIGINT NOT NULL REFERENCES authz_roles (id) ON DELETE CASCADE, " ++
      "created_at TIMESTAMPTZ NOT NULL DEFAULT NOW(), PRIMARY KEY (parent_id, child_id), " ++
      "CHECK (parent_id <> child_id) );",
    "CREATE TABLE IF NOT EXISTS authz_permissions ( id BIGSERIAL PRIMARY KEY, " ++
      "role_id BIGINT NOT NULL, resource_id BIGINT NOT NULL, action_id BIGINT NOT NULL, " ++
      "status TEXT NOT NULL DEFAULT 'active' CHECK (status IN ('active', 'inactive')), " ++
      "condition TEXT, priority INTEGER NOT NULL DEFAULT 0, " ++
      "created_at TIMESTAMPTZ NOT NULL DEFAULT NOW(), " ++
      "CONSTRAINT authz_permissions_triple_key UNIQUE (role_id, resource_id, action_id), " ++
      "CONSTRAINT authz_permissions_role_fk FOREIGN KEY (role_id) " ++
      "REFERENCES authz_roles (id) ON DELETE RESTRICT, " ++
      "CONSTRAINT authz_permissions_resource_fk FOREIGN KEY (resource_id) " ++
      "REFERENCES authz_resources (id) ON DELETE RESTRICT, " ++
      "CONSTRAINT authz_permissions_action_fk FOREIGN KEY (action_id) " ++
      "REFERENCES authz_actions (id) ON DELETE RESTRICT );",
    "CREATE TABLE IF NOT EXISTS authz_attributes ( " ++
      "owner_type TEXT NOT NULL CHECK (owner_type IN ('user', 'resource')), " ++
      "owner_id BIGINT NOT NULL, key TEXT NOT NULL, value TEXT NOT NULL, " ++
      "value_type TEXT NOT NULL, updated_at TIMESTAMPTZ NOT NULL DEFAULT NOW(), " ++
      "PRIMARY KEY (owner_type, owner_id, key) );",
    "-- Audit rows carry no foreign keys: unresolved names are recorded as id 0",
    "CREATE TABLE IF NOT EXISTS authz_audit_log ( id BIGSERIAL PRIMARY KEY, " ++
      "user_id BIGINT NOT NULL, resource_id BIGINT NOT NULL, action_id BIGINT NOT NULL, " ++
      "operation TEXT NOT NULL, result BOOLEAN NOT NULL, reason TEXT NOT NULL, context TEXT, " ++
      "created_at TIMESTAMPTZ NOT NULL DEFAULT NOW() );",
    "CREATE INDEX IF NOT EXISTS idx_authz_audit_user ON authz_audit_log (user_id);",
    "CREATE INDEX IF NOT EXISTS idx_authz_audit_created ON authz_audit_log (created_at);"]

/-- The statements that bring the tables up to date, one process at a time, with the account that is
kept of it. -/
def migration : List String :=
  ["SELECT current_database()", "SELECT pg_advisory_lock($1)",
    "CREATE TABLE IF NOT EXISTS _sqlx_migrations ( version BIGINT PRIMARY KEY, " ++
      "description TEXT NOT NULL, installed_on TIMESTAMPTZ NOT NULL DEFAULT now(), " ++
      "success BOOLEAN NOT NULL, checksum BYTEA NOT NULL, execution_time BIGINT NOT NULL );",
    "SELECT version FROM _sqlx_migrations WHERE success = false ORDER BY version LIMIT 1",
    "SELECT version, checksum FROM _sqlx_migrations ORDER BY version", "BEGIN",
    "\n".intercalate schema,
    "INSERT INTO _sqlx_migrations ( version, description, success, checksum, execution_time ) " ++
      "VALUES ( $1, $2, TRUE, $3, -1 )", "COMMIT",
    "UPDATE _sqlx_migrations SET execution_time = $1 WHERE version = $2",
    "SELECT pg_advisory_unlock($1)"]

/-- Whether a server refuses for the moment only: it is asked again until nobody waits any longer,
and its words are lost. -/
def Refusal.isTransient (refusal : Refusal) : Bool :=
  refusal.code = "53300" || refusal.code = "57P03"

/-- Connect as the settings say and bring the tables up to date. -/
def connect (settings : Settings) (answering : String → Answering) : Checked Unit :=
  match settings.databaseUrl with
  | none => .error .noDatabaseUrl
  | some url =>
    match answering url with
    | .nobody => .error (.statement "Failed to connect to database" none)
    | .refusing refusal =>
      .error (.statement "Failed to connect to database"
        (if refusal.isTransient then none else some refusal.message))
    | .accepting fails =>
      if migration.any fails then .error (.statement "Migration failed" none) else .ok ()

end AccessControl.Sql
