import BlobstoreS3.Basic
import BlobstoreS3.Client
import BlobstoreS3.S3
import BlobstoreS3.Storage
import BlobstoreS3.Handlers
import BlobstoreS3.Footprint
import BlobstoreS3.Registry
import BlobstoreS3.Dispatcher
import BlobstoreS3.ObjectStore
import BlobstoreS3.ObjectData
import BlobstoreS3.Listing
import BlobstoreS3.Containers
import BlobstoreS3.Effects
import BlobstoreS3.Tasks
import BlobstoreS3.Interleaving
import BlobstoreS3.Progress
import BlobstoreS3.Independence
import BlobstoreS3.Load
import BlobstoreS3.Service
